import WorkloadAuth.Calendar.Moment
import WorkloadAuth.Chain.NameConstraints
import WorkloadAuth.Chain.Signature

/-!
# Paths

A path leads from a certificate over intermediates to an anchor. Intermediates are found by the
name of the issuer, depth first, and every alternative is tried before the search gives up.

* `Link.check`: the checks of a certificate that do not depend on its issuer.
* `Query`: what a path is searched for.
* `Query.checkAnchored`: the signatures and the name constraints of a whole path.
* `Query.search`: the search.
-/

namespace WorkloadAuth.Chain

open Reader Calendar

/-! ## One certificate -/

/-- The digits of a time that are not zone: year, month, day, hour, minute and second. -/
def timeParts? (yearWidth : Nat) (bytes : List UInt8) : Option (Date × TimeOfDay) :=
  let digits := (bytes.take (yearWidth + 10)).map fun b => b.toNat - 0x30
  let at? (i : Nat) : Nat := digits.getD i 0 * 10 + digits.getD (i + 1) 0
  if (bytes.take (yearWidth + 10)).all Dns.isDigit ∧ digits.length = yearWidth + 10 then
    let year := if yearWidth = 2 then (if 50 ≤ at? 0 then 1900 else 2000) + at? 0
      else at? 0 * 100 + at? 2
    let date : Date := ⟨year, at? yearWidth, at? (yearWidth + 2)⟩
    let time : TimeOfDay := ⟨at? (yearWidth + 4), at? (yearWidth + 6), at? (yearWidth + 8), 0⟩
    if date.Valid ∧ time.Valid then some (date, time) else none
  else none

/-- The content of a time: its parts to the second, and `Z`. It counts in seconds since the start
of 1970, and there is none before. -/
def timeContent (yearWidth : Nat) : Reader Nat := fun bytes =>
  match timeParts? yearWidth bytes, bytes.drop (yearWidth + 10) with
  | some (date, time), 0x5a :: rest =>
    if 1970 ≤ date.year then .ok ((Moment.ofUtc date time).unixSeconds.toNat, rest)
    else .error .badTime
  | _, _ => .error .badTime

/-- A time with a year of two or of four digits. -/
def time : Reader Nat := do
  if ← startsWith .utcTime then nested .utcTime (.trailingData .time) (timeContent 2)
  else nested .generalizedTime (.trailingData .time) (timeContent 4)

/-- The two ends of a validity. -/
def validity : Reader (Nat × Nat) := do
  let first ← time
  let last ← time
  pure (first, last)

/-- Checks that a validity holds at a time; both ends belong to it. -/
def checkValidity (now : Nat) : Reader Unit := do
  let (first, last) ← validity
  if last < first then fail .invertedValidity
  else if now < first then fail .notYetValid
  else if last < now then fail .expired
  else pure ()

/-- Whether a certificate belongs to an authority, and how many authorities may be between it and
the end of the chain. -/
def authority : Reader (Bool × Option Nat) := do
  let isAuthority ← flag
  if ← atEnd then pure (isAuthority, none)
  else
    let limit ← smallNumber
    pure (isAuthority, some limit)

/-- The place of a certificate in a path. -/
inductive Place where
  | endEntity
  /-- An issuer, with the number of issuers between it and the end of the chain. -/
  | issuer (below : Nat)
  deriving DecidableEq, Repr

/-- Checks that a certificate may be in its place. -/
def checkPlace (place : Place) (isAuthority : Bool) (limit : Option Nat) : Except Fault Unit :=
  match place, isAuthority, limit with
  | .endEntity, true, _ => .error .authorityAsEndEntity
  | .issuer _, false, _ => .error .endEntityAsAuthority
  | .issuer below, true, some limit =>
    if limit < below then .error .pathLengthExceeded else .ok ()
  | _, _, _ => .ok ()

/-- Checks that a usage is listed; what follows it in the list is not looked at. `fuel` bounds the
list. -/
def checkUsage (usage : List UInt8) : Nat → Reader Unit
  | 0 => fail .usageMissing
  | fuel + 1 => do
    let listed ← expect .objectId
    if listed = usage then let _ ← remainder
    else if ← atEnd then fail .usageMissing
    else checkUsage usage fuel

/-- The checks of a certificate that do not depend on its issuer: its validity, its place, and its
usage if it restricts that. -/
def Link.check (link : Link) (now : Nat) (usage : List UInt8) (place : Place) :
    Except Fault Unit := do
  whole .badEncoding (checkValidity now) link.validity
  match link.basicConstraints with
  | none => checkPlace place false none
  | some bytes =>
    whole .badEncoding
      (do
        let (isAuthority, limit) ← authority
        match checkPlace place isAuthority limit with
        | .ok () => pure ()
        | .error fault => fail fault)
      bytes
  match link.extendedUsage with
  | none => .ok ()
  | some bytes => whole .badEncoding (checkUsage usage (bytes.length + 1)) bytes

/-! ## Whole paths -/

/-- What a path is searched for, and what it may be made of. -/
structure Query where
  algorithms : List Algorithm
  anchors : List Anchor
  /-- The intermediates; one that cannot be read is a fault of every path that tries it. -/
  intermediates : List (Except Fault Link)
  /-- The time, in seconds since the start of 1970. -/
  now : Nat
  /-- The usage that every certificate of the path has to allow. -/
  usage : List UInt8

/-- The most intermediates of a path. -/
def maxIntermediates : Nat := 6

namespace Query

/-- Checks the signatures of some certificates, of which each is signed by the one before it and
the first one by a given key. -/
def checkSignatures (q : Query) (key : List UInt8) : List Link → Search Unit
  | [] => pure ()
  | link :: below => do
    spendSignature
    ofExcept (link.signed.check q.algorithms key)
    q.checkSignatures link.key below

/-- Applies the constraints of an issuer, if it has any, to all certificates below it, and so on
from each certificate to those below. -/
def checkConstraints (constraints : Option (List UInt8)) : List Link → Search Unit
  | [] => pure ()
  | link :: below => do
    match constraints with
    | some bytes => checkNames bytes (link :: below)
    | none => pure ()
    checkConstraints link.nameConstraints below

/-- Checks that a path, from its last issuer down, leads to an anchor. -/
def checkAnchored (q : Query) (head : Link) (below : List Link) (anchor : Anchor) :
    Search Unit := do
  if anchor.subject ≠ head.issuer then throw .unknownIssuer
  q.checkSignatures anchor.key (head :: below)
  checkConstraints anchor.nameConstraints (head :: below)

/-- The place of the certificate above some others. -/
def placeAbove (below : List Link) : Place :=
  match below with
  | [] => .endEntity
  | _ :: issuers => .issuer issuers.length

/-- Checks that a certificate can issue the head of a path and is not on the path already. -/
def canFollow (issuer head : Link) (below : List Link) : Bool :=
  issuer.subject == head.issuer &&
    !(head :: below).any fun l => l.key == issuer.key && l.subject == issuer.subject

/-- Completes a path: by an anchor, or else by an intermediate that `extend` completes. -/
def complete (q : Query) (extend : Link → Search Anchor) (head : Link) (below : List Link) :
    Search Anchor := ExceptT.mk do
  match head.check q.now q.usage (placeAbove below) with
  | .error fault => pure (.error fault)
  | .ok () =>
    let anchored ← (firstOf
      (fun anchor => do q.checkAnchored head below anchor; pure anchor) .unknownIssuer
      q.anchors).run
    match anchored with
    | .ok anchor => pure (.ok anchor)
    | .error fault =>
      if fault.isFatal then pure (.error fault)
      else
        (firstOf
          (fun candidate => do
            let issuer ← ofExcept candidate
            if canFollow issuer head below then
              spendPathCall
              extend issuer
            else throw .unknownIssuer)
          fault q.intermediates).run

/-- Completes a path to which `room` intermediates may be added. -/
def searchFrom (q : Query) : (room : Nat) → (head : Link) → (below : List Link) → Search Anchor
  | 0, head, below => q.complete (fun _ => throw .pathTooLong) head below
  | room + 1, head, below =>
    q.complete (fun issuer => q.searchFrom room issuer (head :: below)) head below

/-- Searches a path for a certificate, with a budget of its own. -/
def search (q : Query) (leaf : Link) : Except Fault Anchor :=
  ((q.searchFrom maxIntermediates leaf []).run {}).1

end Query

end WorkloadAuth.Chain
