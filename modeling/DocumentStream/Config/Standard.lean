import DocumentStream.Config
import DocumentStream.Json.Reader
import DocumentStream.Toml
import DocumentStream.Yaml

/-!
Readers of configuration files for a program that runs without other packages. Only a part of YAML
is read. Whoever has a package for a format passes its reader instead, and what is proved of the
program holds with any readers.
-/

namespace DocumentStream.Config

def Readers.standard : Readers where
  toml := Toml.read
  yaml := Yaml.read
  json text := (Json.read text).mapError fun error => error.message.toList

end DocumentStream.Config
