import Mathlib

namespace RealtimeVoice.Base.Url

/-- The part before the first separator and, when there is one, the part after it. -/
def partition (sep : Char) (s : List Char) : List Char × Option (List Char) :=
  match s.dropWhile (· ≠ sep) with
  | [] => (s, none)
  | _ :: rest => (s.takeWhile (· ≠ sep), some rest)

/-- The part before the last separator, when there is one, and the part after it. -/
def rpartition (sep : Char) (s : List Char) : Option (List Char) × List Char :=
  match partition sep s.reverse with
  | (_, none) => (none, s)
  | (last, some front) => (some front.reverse, last.reverse)

structure SplitResult where
  scheme : String
  netloc : String
  path : String
  query : String
  fragment : String
deriving DecidableEq

namespace SplitResult

def userinfo (r : SplitResult) : Option (List Char) := (rpartition '@' r.netloc.toList).1

def username (r : SplitResult) : Option String := r.userinfo.map (fun info => String.ofList (partition ':' info).1)

def password (r : SplitResult) : Option String := do
  let info ← r.userinfo
  let password ← (partition ':' info).2
  some (String.ofList password)

/-- The host without its port; the zone of an address keeps its letters. -/
def hostname (r : SplitResult) : Option String :=
  let hostinfo := (rpartition '@' r.netloc.toList).2
  let host := match (partition '[' hostinfo).2 with
    | some bracketed => (partition ']' bracketed).1
    | none => (partition ':' hostinfo).1
  if host = [] then none
  else
    let (name, zone) := partition '%' host
    some (String.ofList (name.map Char.toLower ++ zone.elim [] ('%' :: ·)))

theorem password_eq_none {r : SplitResult} (h : r.username = none) : r.password = none := by
  rw [username, Option.map_eq_none_iff] at h
  rw [password, h]
  rfl

end SplitResult

def schemeChar (c : Char) : Bool := c.isAlphanum || c == '+' || c == '-' || c == '.'

/-- `urllib.parse.urlsplit`. The checks of its host name, for brackets that do not
match or hold no address and for letters that normalize to delimiters, are left to a
parameter: they raise. -/
def urlsplit (checkNetloc : String → Bool) (url : String) : Option SplitResult :=
  let url := (url.toList.dropWhile (fun c => c.toNat ≤ 32)).filter (fun c => c ≠ '\t' ∧ c ≠ '\r' ∧ c ≠ '\n')
  let (scheme, url) := match partition ':' url with
    | (c :: name, some rest) =>
      if c.isAlpha ∧ (c :: name).all schemeChar then ((c :: name).map Char.toLower, rest) else ([], url)
    | _ => ([], url)
  let (netloc, url) :=
    if ['/', '/'].isPrefixOf url then
      ((url.drop 2).takeWhile (· ∉ ['/', '?', '#']), (url.drop 2).dropWhile (· ∉ ['/', '?', '#']))
    else ([], url)
  if checkNetloc (String.ofList netloc) then
    let (url, fragment) := partition '#' url
    let (path, query) := partition '?' url
    some
      { scheme := String.ofList scheme
        netloc := String.ofList netloc
        path := String.ofList path
        query := String.ofList (query.getD [])
        fragment := String.ofList (fragment.getD []) }
  else none

end RealtimeVoice.Base.Url
