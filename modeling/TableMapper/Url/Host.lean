import TableMapper.Text.Search
import TableMapper.Url.Percent

/-!
# Hosts

* `Host` is a name or the address of version 6 of the protocol.
* `Host.read` reads one, `Host.text` writes it.
* `UrlError` is what can be wrong with an address.
-/

namespace TableMapper

/-- The faults of an address. -/
inductive UrlError where
  | noScheme
  | emptyHost
  | hostCharacter
  | ipv6
  | port
  deriving DecidableEq

/-- The text of a fault. -/
def UrlError.message : UrlError → String
  | .noScheme => "relative URL without a base"
  | .emptyHost => "empty host"
  | .hostCharacter => "invalid domain character"
  | .ipv6 => "invalid IPv6 address"
  | .port => "invalid port number"

/-! ### Addresses of eight groups -/

namespace Ipv6

/-- A group: one to four hexadecimal digits. -/
def group? (cs : List Char) : Option Nat :=
  if cs.isEmpty || 4 < cs.length then none
  else (cs.mapM Text.hexValue?).map fun ds => ds.foldl (fun n d => 16 * n + d) 0

/-- A decimal byte without superfluous zeros. -/
def byte? (cs : List Char) : Option Nat :=
  match cs with
  | '0' :: _ :: _ => none
  | _ => (Text.digits? cs).filter (· < 256)

/-- Four decimal bytes between points, as two groups. -/
def dotted? (cs : List Char) : Option (List Nat) :=
  match (cs.splitOn '.').mapM byte? with
  | some [a, b, c, d] => some [256 * a + b, 256 * c + d]
  | _ => none

/-- Groups, the last of which may be written as bytes when `mayDot` holds. -/
def groupsOf? (mayDot : Bool) : List (List Char) → Option (List Nat)
  | [] => some []
  | [last] =>
    if mayDot && last.contains '.' then dotted? last else (group? last).map ([·])
  | g :: gs => do return (← group? g) :: (← groupsOf? mayDot gs)

/-- Groups between colons; none at all in the empty text. -/
def groups? (mayDot : Bool) (cs : List Char) : Option (List Nat) :=
  if cs.isEmpty then some [] else groupsOf? mayDot (cs.splitOn ':')

/-- The eight groups of an address.  A double colon stands for one or more groups of zero. -/
def read? (cs : List Char) : Option (List Nat) :=
  match Text.cutAtChars? [':', ':'] cs with
  | none => (groups? true cs).filter (·.length == 8)
  | some (before, after) => do
    let front ← groups? false before
    let back ← groups? true after
    let present := front.length + back.length
    if present < 8 then some (front ++ List.replicate (8 - present) 0 ++ back) else none

/-- The number of zeros at the front. -/
def zeros (gs : List Nat) : Nat := (gs.takeWhile (· == 0)).length

/-- The place of the longest stretch of at least two zeros, the first of the longest, with its
length; `i` is the place of the first group. -/
def longestZeros (i : Nat) : List Nat → Option (Nat × Nat)
  | [] => none
  | g :: gs =>
    let here := zeros (g :: gs)
    match longestZeros (i + 1) gs with
    | some (j, n) => if 2 ≤ here && n ≤ here then some (i, here) else some (j, n)
    | none => if 2 ≤ here then some (i, here) else none

/-- Groups between colons. -/
def colons (gs : List Nat) : List Char := [ ':' ].intercalate (gs.map (Text.inBase 16))

/-- The address, with the longest stretch of zeros as a double colon. -/
def text (gs : List Nat) : String :=
  String.ofList (match longestZeros 0 gs with
    | some (i, n) => colons (gs.take i) ++ ':' :: ':' :: colons (gs.drop (i + n))
    | none => colons gs)

end Ipv6

/-! ### Hosts -/

/-- The host part of an address. -/
inductive Host where
  /-- A name, with its unusual characters escaped; the empty name is no host. -/
  | name (text : String)
  /-- An address of eight groups. -/
  | ipv6 (groups : List Nat)
  deriving DecidableEq

namespace Host

/-- There is no host. -/
def isEmpty : Host → Bool
  | .name s => s.isEmpty
  | .ipv6 _ => false

/-- The characters that no name of a host contains. -/
def isForbidden (c : Char) : Bool :=
  ['\x00', '\t', '\n', '\r', ' ', '#', '/', ':', '<', '>', '?', '@', '[', '\\', ']', '^',
    '|'].contains c

/-- The host written like this. -/
def read (cs : List Char) : Except UrlError Host :=
  match cs with
  | '[' :: inner =>
    match Text.dropEnd? [']'] inner with
    | some inner => match Ipv6.read? inner with
      | some gs => .ok (.ipv6 gs)
      | none => .error .ipv6
    | none => .error .ipv6
  | _ =>
    if cs.any isForbidden then .error .hostCharacter
    else .ok (.name (String.ofList (Percent.encodeChars Percent.controls cs)))

/-- The host as written in an address. -/
def text : Host → String
  | .name s => s
  | .ipv6 gs => "[" ++ Ipv6.text gs ++ "]"

end Host

end TableMapper
