/-
  Settings out of a file.

  The file is a TOML document with the tables `api`, `discovery` and `tailscale`.  Every table and
  every key may be missing, and other keys do not matter.  A table may also be given as an array of
  its values in order.

  * `SettingKey`: how the value of a key becomes a setting, and what the setting is when a table
    lacks the key;
  * `Section`: the keys of a table.  A table which is there gives all its settings, `Section.vacate`
    those of the keys which it lacks;
  * `Settings.ofToml?` reads the settings of a document.  Those of a table which is missing stay
    what they are without a document;
  * `Settings.ofFile` reads the settings of a file, which is `none` if it cannot be read.
-/
import TailnetTargets.Duration.Parser
import TailnetTargets.Settings.Basic
import TailnetTargets.Toml.Reader

namespace TailnetTargets

/-- A way to turn a value into a change of the settings. -/
abbrev SettingReader := Toml → Option (Settings → Settings)

namespace SettingReader

/-- A setting which is a text. -/
def text (put : String → Settings → Settings) : SettingReader
  | .text s => some (put s)
  | _ => none

/-- A setting which is a truth value. -/
def bool (put : Bool → Settings → Settings) : SettingReader
  | .bool b => some (put b)
  | _ => none

/-- A setting which is a span of time. -/
def duration (put : Duration → Settings → Settings) : SettingReader
  | .text s => (Duration.ofText? s).map put
  | _ => none

end SettingReader

/-- What a key of a table is about. -/
structure SettingKey where
  /-- gives the setting the value which it has when the table lacks the key -/
  missing : Settings → Settings
  /-- what the value of the key means -/
  read : SettingReader

namespace SettingKey

/-- A text. -/
def text (absent : String) (put : String → Settings → Settings) : SettingKey :=
  ⟨put absent, .text put⟩

/-- A text which there may be. -/
def text? (put : Option String → Settings → Settings) : SettingKey :=
  ⟨put none, .text fun v => put (some v)⟩

/-- A truth value. -/
def bool (put : Bool → Settings → Settings) : SettingKey := ⟨put false, .bool put⟩

/-- A span of time. -/
def duration (absent : Duration) (put : Duration → Settings → Settings) : SettingKey :=
  ⟨put absent, .duration put⟩

end SettingKey

/-- The keys of a table in order, with what they are about. -/
abbrev Section := List (String × SettingKey)

namespace Section

/-- The settings of a table which lacks all of its keys. -/
def vacate (keys : Section) (s : Settings) : Settings := keys.foldl (fun s e => e.2.missing s) s

/-- The settings changed by the entries of a table. -/
def ofEntries? (keys : Section) (s : Settings) : List (String × Toml) → Option Settings
  | [] => some s
  | (key, v) :: rest =>
    match keys.lookup key with
    | none => ofEntries? keys s rest
    | some k => do
      let put ← k.read v
      ofEntries? keys (put s) rest

/-- The settings changed by values in the order of the keys. -/
def ofItems? (s : Settings) : Section → List Toml → Option Settings
  | (_, k) :: keys, v :: rest => do
    let put ← k.read v
    ofItems? (put s) keys rest
  | _, _ => some s

/-- The settings changed by a table. -/
def read? (keys : Section) (s : Settings) : Toml → Option Settings
  | .table entries => keys.ofEntries? (keys.vacate s) entries
  | .array items => ofItems? (keys.vacate s) keys items
  | _ => none

/-- Where targets are served. -/
def api : Section :=
  [("listen", .text defaultListen fun v s => { s with listen := v })]

/-- How devices are looked for. -/
def discovery : Section :=
  [("poll_limit", .duration defaultPollLimit fun v s => { s with pollLimit := v }),
   ("include_ipv6", .bool fun v s => { s with includeIPv6 := v })]

/-- Where devices are looked for. -/
def tailscale : Section :=
  [("local_api", .bool fun v s => { s with localApi := v }),
   ("local_api_socket", .text defaultSocket fun v s => { s with localSocket := v }),
   ("tailnet", .text defaultTailnet fun v s => { s with tailnet := v }),
   ("token", .text? fun v s => { s with token := v }),
   ("client_id", .text? fun v s => { s with clientId := v }),
   ("client_secret", .text? fun v s => { s with clientSecret := v }),
   ("api_host", .text publicHost fun v s => { s with apiHost := v })]

/-- The tables of a document. -/
def all : List (String × Section) :=
  [("api", api), ("discovery", discovery), ("tailscale", tailscale)]

end Section

namespace Settings

/-- The settings changed by the entries of a document. -/
def withToml? (s : Settings) : List (String × Toml) → Option Settings
  | [] => some s
  | (key, v) :: rest =>
    match Section.all.lookup key with
    | none => withToml? s rest
    | some keys => do
      let s ← keys.read? s v
      withToml? s rest

/-- The settings which the entries of a document give. -/
def ofToml? (entries : List (String × Toml)) : Option Settings := withToml? {} entries

/-- The settings which the text of a document gives. -/
def ofText? (s : String) : Option Settings := (Toml.ofText? s).bind ofToml?

/-- The settings of a file at a path, whose bytes are `none` if it cannot be read. -/
def ofFile (path : String) (file : Option ByteArray) : Except SettingsError Settings :=
  match file.bind String.fromUTF8? with
  | none => .error (.unreadable path)
  | some s =>
    match ofText? s with
    | none => .error (.unparseable path)
    | some settings => .ok settings

end Settings

end TailnetTargets
