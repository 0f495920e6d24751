import CallLight.Text.Basic

/-!
# Document addresses

Editors name documents by URI. A document is looked up under its key, the URI without the `file`
scheme, and matched against file patterns under its path, the URI's path with escapes resolved.
-/

namespace CallLight

/-- The URI of a document, as the editor spells it. -/
abbrev Uri := Text

namespace Uri

/-- `file:` -/
def fileScheme : Text := [102, 105, 108, 101, 58]

/-- `file://` -/
def fileAuthority : Text := fileScheme ++ [47, 47]

/-- The key of a document: all spellings of a file URI that differ only in the slashes after the
scheme have one key. -/
def key (u : Uri) : Text := Text.trimLead fileScheme (Text.trimLead fileAuthority u)

/-- The value of a hexadecimal digit. -/
def hexValue? (b : UInt8) : Option UInt8 :=
  if 48 ≤ b && b ≤ 57 then some (b - 48)
  else if 97 ≤ b && b ≤ 102 then some (b - 87)
  else if 65 ≤ b && b ≤ 70 then some (b - 55)
  else none

/-- Resolves percent escapes; `none` when one is malformed or stands for a byte that `escaped`
refuses, or when a byte stands plain that `plain` refuses. -/
def unescape? (plain escaped : UInt8 → Bool) : Text → Option Text
  | [] => some []
  | 37 :: h :: l :: rest => do
    let high ← hexValue? h
    let low ← hexValue? l
    let b := high * 16 + low
    if escaped b then
      let rest ← unescape? plain escaped rest
      some (b :: rest)
    else none
  | b :: rest =>
    if b == 37 then none
    else if plain b then (unescape? plain escaped rest).map (b :: ·)
    else none

/-- Resolves percent escapes where any byte may stand. -/
def unescapeAny? : Text → Option Text := unescape? (fun _ => true) (fun _ => true)

def isAlphanumeric (b : UInt8) : Bool :=
  (97 ≤ b && b ≤ 122) || (65 ≤ b && b ≤ 90) || (48 ≤ b && b ≤ 57)

/-- Bytes that may stand plain in a host. -/
def isHostByte (b : UInt8) : Bool :=
  128 ≤ b || isAlphanumeric b || (Text.ofString "!$&'()*+,;=:[]<>\"-_.~").contains b

/-- In a host only bytes beyond ASCII, and the percent sign, may be escaped. -/
def isHostEscape (b : UInt8) : Bool := 128 ≤ b || b == 37

/-- In the zone of an address a byte may be escaped if it could stand plain in a host, and the
percent sign and the blank as well. -/
def isZoneEscape (b : UInt8) : Bool := isHostByte b || b == 37 || b == 32

/-- Bytes of user information. -/
def isUserByte (b : UInt8) : Bool :=
  isAlphanumeric b || (Text.ofString "-._:~!$&'()*+,;=%@").contains b

/-- What may follow the name of a host: nothing, or a colon and digits. -/
def isHostNumber : Text → Bool
  | [] => true
  | b :: rest => b == 58 && rest.all fun d => 48 ≤ d && d ≤ 57

/-- Cuts at the first byte `b`, which goes with neither part; `none` when there is none. -/
def cut? (b : UInt8) (t : Text) : Option (Text × Text) :=
  match t.dropWhile (· != b) with
  | [] => none
  | _ :: rest => some (t.takeWhile (· != b), rest)

/-- Cuts before the last byte `b`; `none` when there is none. -/
def cutLast? (b : UInt8) (t : Text) : Option (Text × Text) :=
  let tail := t.reverse.takeWhile (· != b)
  if tail.length = t.length then none
  else some (t.take (t.length - tail.length - 1), t.drop (t.length - tail.length - 1))

/-- Cuts before the first `%25`. -/
def cutZone? : Text → Option (Text × Text)
  | [] => none
  | b :: rest =>
    if (Text.dropLead? [37, 50, 53] (b :: rest)).isSome then some ([], b :: rest)
    else (cutZone? rest).map fun (before, zone) => (b :: before, zone)

/-- Whether a host, with the number behind it, is well-formed. -/
def isHost (host : Text) : Bool :=
  let plain (t : Text) := (unescape? isHostByte isHostEscape t).isSome
  match host with
  | 91 :: _ =>
    match cutLast? 93 host with
    | none => false
    | some (before, bracket) =>
      if isHostNumber (bracket.drop 1) then
        match cutZone? before with
        | some (address, zone) =>
          plain address && (unescape? isHostByte isZoneEscape zone).isSome && plain bracket
        | none => plain host
      else false
  | _ =>
    match cutLast? 58 host with
    | some (_, number) => isHostNumber number && plain host
    | none => plain host

/-- Whether the part between `//` and the path is well-formed. -/
def isAuthority (authority : Text) : Bool :=
  match cutLast? 64 authority with
  | none => isHost authority
  | some (user, host) =>
    isHost (host.drop 1) && user.all isUserByte && (unescapeAny? user).isSome

/-- The path of a `file` URI, given without its scheme; `none` when the URI is malformed. -/
def filePath? (rest : Text) : Option Text := do
  let (main, fragment) := (cut? 35 rest).getD (rest, [])
  if main.any (fun b => b < 32 || b == 127) || (unescapeAny? fragment).isNone then none
  else
    let main := ((cut? 63 main).getD (main, [])).1
    match main with
    | 47 :: 47 :: hierarchy =>
      let authority := hierarchy.takeWhile (· != 47)
      if isAuthority authority then unescapeAny? (hierarchy.drop authority.length) else none
    | 47 :: _ => unescapeAny? main
    | _ => some []

/-- The path of a document. Other schemes are left alone, and a URI that is malformed or has no path
is only relieved of its scheme. -/
def path (u : Uri) : Text :=
  match Text.dropLead? fileScheme u with
  | none => u
  | some rest =>
    match filePath? rest with
    | some (b :: p) => b :: p
    | _ => u.key

end Uri

end CallLight
