import DocumentStream.Value

/-!
References to the targets of links and images.
-/

namespace DocumentStream

/-- The kind of resource that a reference points to. -/
inductive ResourceType where
  | url
  | mailto
  | document
  | page
  | attachment
  | image
  | path
  | unc
  | data
  | space
  | unknown
  deriving DecidableEq, Repr

namespace ResourceType

def all : List ResourceType :=
  [.url, .mailto, .document, .page, .attachment, .image, .path, .unc, .data, .space, .unknown]

def label : ResourceType → Text
  | .url => ['u', 'r', 'l']
  | .mailto => ['m', 'a', 'i', 'l', 't', 'o']
  | .document => ['d', 'o', 'c']
  | .page => ['p', 'a', 'g', 'e']
  | .attachment => ['a', 't', 't', 'a', 'c', 'h']
  | .image => ['i', 'm', 'a', 'g', 'e']
  | .path => ['p', 'a', 't', 'h']
  | .unc => ['u', 'n', 'c']
  | .data => ['d', 'a', 't', 'a']
  | .space => ['s', 'p', 'a', 'c', 'e']
  | .unknown => ['u', 'n', 'k', 'n', 'o', 'w', 'n']

def ofLabel? (label : Text) : Option ResourceType := all.find? fun type => type.label == label

end ResourceType

/-- A reference to the target of a link or image. Only the type is checked when a reference is
built; the target itself, the flag and the bases are whatever was given. -/
structure Reference where
  /-- The reference as it was written: an address, a document name, an attachment name. -/
  target : Value
  type : ResourceType := .url
  /-- Whether the type was explicit in the source of the document. -/
  typed : Value := .bool true
  /-- The references that the target is relative to. -/
  bases : List Value := []
  parameters : Entries := []
  deriving Repr

end DocumentStream
