import Mathlib.Data.List.Basic
import WorkloadAuth.Certificate.Workload
import WorkloadAuth.Proofs.Snapshot
import WorkloadAuth.Proofs.Trust
import WorkloadAuth.Proofs.TrustedRoot

/-!
# The identity that a certificate carries

A certificate carries an identity if each part of it is given exactly once. The loops that look for
the parts fill slots; what such a loop finds does not depend on the order in which it looks.

* `IpAddress.bytes`, `IpAddress.ofBytes?_eq_some_iff`: the octets of an address.
* `Certificate.loop_eq_ok_iff`: what a loop finds that fills slots which may be filled once.
* `Inspected.Carries`: when the parts of a certificate carry an identity.
* `Inspected.Similar`: two certificates differ only in order and in what tells nothing.
* `Certificate.identity_exact`: the identity of a certificate is the one that it carries.
-/

namespace WorkloadAuth

/-! ## Octets of addresses -/

namespace Net

/-- A number in so many octets, most significant first. -/
def bytesOf : (width : Nat) → Nat → List UInt8
  | 0, _ => []
  | width + 1, n => bytesOf width (n / 256) ++ [UInt8.ofNat n]

theorem length_bytesOf (width n : Nat) : (bytesOf width n).length = width := by
  induction width generalizing n with
  | zero => rfl
  | succ width ih => rw [bytesOf, List.length_append, ih, List.length_singleton]

/-- The number that octets write. -/
def numberOf (bytes : List UInt8) : Nat := positional 256 (bytes.map UInt8.toNat)

theorem numberOf_concat (bytes : List UInt8) (b : UInt8) :
    numberOf (bytes ++ [b]) = numberOf bytes * 256 + b.toNat := by
  simp [numberOf, positional]

theorem numberOf_lt (bytes : List UInt8) : numberOf bytes < 256 ^ bytes.length := by
  induction bytes using List.reverseRecOn with
  | nil => decide
  | append_singleton bytes b ih =>
    have hb := b.toNat_lt
    rw [numberOf_concat, List.length_append, List.length_singleton, Nat.pow_succ]
    omega

theorem bytesOf_numberOf (bytes : List UInt8) : bytesOf bytes.length (numberOf bytes) = bytes := by
  induction bytes using List.reverseRecOn with
  | nil => rfl
  | append_singleton bytes b ih =>
    have hb := b.toNat_lt
    have hdiv : (numberOf bytes * 256 + b.toNat) / 256 = numberOf bytes := by omega
    have hmod : UInt8.ofNat (numberOf bytes * 256 + b.toNat) = b := by
      rw [← UInt8.toNat_inj, UInt8.toNat_ofNat']
      omega
    rw [numberOf_concat, List.length_append, List.length_singleton, bytesOf, hdiv, ih, hmod]

theorem numberOf_bytesOf {width n : Nat} (h : n < 256 ^ width) :
    numberOf (bytesOf width n) = n := by
  induction width generalizing n with
  | zero => exact (Nat.lt_one_iff.1 h).symm
  | succ width ih =>
    have hdiv : n / 256 < 256 ^ width := by
      rw [Nat.pow_succ] at h
      omega
    rw [bytesOf, numberOf_concat, ih hdiv, UInt8.toNat_ofNat']
    omega

/-- The octets of an address in network order: four or sixteen. -/
def IpAddress.bytes : IpAddress → List UInt8
  | .v4 bits => bytesOf 4 bits.toNat
  | .v6 bits => bytesOf 16 bits.toNat

/-- Octets are an address if and only if they are its octets. -/
theorem IpAddress.ofBytes?_eq_some_iff {bytes : List UInt8} {a : IpAddress} :
    IpAddress.ofBytes? bytes = some a ↔ bytes = a.bytes := by
  have hread (bytes : List UInt8) : IpAddress.ofBytes? bytes =
      if bytes.length = 4 then some (.v4 (BitVec.ofNat 32 (numberOf bytes)))
      else if bytes.length = 16 then some (.v6 (BitVec.ofNat 128 (numberOf bytes)))
      else none := rfl
  constructor
  · intro h
    have hlt := numberOf_lt bytes
    rw [hread] at h
    split at h
    · rename_i hlength
      cases h
      rw [hlength] at hlt
      rw [IpAddress.bytes, BitVec.toNat_ofNat, Nat.mod_eq_of_lt (by simpa using hlt), ← hlength,
        bytesOf_numberOf]
    · split at h
      · rename_i hlength
        cases h
        rw [hlength] at hlt
        rw [IpAddress.bytes, BitVec.toNat_ofNat, Nat.mod_eq_of_lt (by simpa using hlt), ← hlength,
          bytesOf_numberOf]
      · cases h
  · rintro rfl
    cases a with
    | v4 bits =>
      rw [hread, IpAddress.bytes, if_pos (length_bytesOf ..), numberOf_bytesOf bits.isLt,
        BitVec.ofNat_toNat, BitVec.setWidth_eq]
    | v6 bits =>
      rw [hread, IpAddress.bytes, length_bytesOf, if_neg (by decide), if_pos rfl,
        numberOf_bytesOf bits.isLt, BitVec.ofNat_toNat, BitVec.setWidth_eq]

end Net

namespace Certificate

open Net

/-! ## Slots -/

theorem eq_iff_toList_eq {α : Type} {o o' : Option α} : o = o' ↔ o.toList = o'.toList := by
  cases o <;> cases o' <;> simp

/-- The start of what fits into a slot fits into a slot. -/
theorem exists_toList_of_append {α : Type} {xs ys : List α} {o : Option α}
    (h : xs ++ ys = o.toList) : ∃ o' : Option α, o'.toList = xs := by
  match xs with
  | [] => exact ⟨none, rfl⟩
  | [x] => exact ⟨some x, rfl⟩
  | x :: x' :: xs =>
    have hlength := congrArg List.length h
    simp only [List.length_append, List.length_cons] at hlength
    have hone := o.length_toList_le
    omega

section Slots

variable {σ κ α β γ ε : Type}

/-- A loop reads items one after the other and puts what they tell into slots, of which none may be
filled twice. It finds what the slots hold, followed by all that the items tell. -/
theorem loop_eq_ok_iff (get : σ → κ → Option α) (step : σ → β → Except ε σ)
    (loop : σ → List β → Except ε σ) (read : β → Option γ) (tells : γ → κ → List α)
    (hget : Function.Bijective get) (hnil : ∀ s, loop s [] = .ok s)
    (hcons : ∀ s b bs, loop s (b :: bs) = step s b >>= fun s => loop s bs)
    (hstep : ∀ s b s', step s b = .ok s' ↔
      ∃ v, read b = some v ∧ ∀ k, (get s k).toList ++ tells v k = (get s' k).toList)
    (s s' : σ) (bs : List β) :
    loop s bs = .ok s' ↔ ∃ vs, bs.mapM read = some vs ∧
      ∀ k, (get s k).toList ++ vs.flatMap (fun v => tells v k) = (get s' k).toList := by
  induction bs generalizing s with
  | nil =>
    rw [hnil]
    constructor
    · intro h
      cases h
      exact ⟨[], rfl, fun k => List.append_nil _⟩
    · rintro ⟨vs, hvs, hslots⟩
      cases hvs
      have hsame : get s = get s' :=
        funext fun k => eq_iff_toList_eq.2 ((List.append_nil _).symm.trans (hslots k))
      rw [hget.1 hsame]
  | cons b bs ih =>
    simp only [hcons, Except.bind_eq_ok_iff, hstep, ih]
    constructor
    · rintro ⟨s₁, ⟨v, hv, hfirst⟩, vs, hvs, hrest⟩
      refine ⟨v :: vs, by simp [List.mapM_cons, hv, hvs], fun k => ?_⟩
      rw [List.flatMap_cons, ← List.append_assoc, hfirst, hrest]
    · rintro ⟨vs, hvs, hslots⟩
      simp only [List.mapM_cons, Option.bind_eq_bind, Option.bind_eq_some_iff] at hvs
      obtain ⟨v, hv, vs, hvs, heq⟩ := hvs
      cases heq
      have hassoc (k : κ) : ((get s k).toList ++ tells v k) ++ vs.flatMap (fun v => tells v k) =
          (get s' k).toList := by
        rw [List.append_assoc]
        exact hslots k
      choose f hf using fun k => exists_toList_of_append (hassoc k)
      obtain ⟨s₁, rfl⟩ := hget.2 f
      exact ⟨s₁, ⟨v, hv, fun k => (hf k).symm⟩, vs, hvs, fun k => by rw [hf k, hassoc k]⟩

theorem once_eq_ok_iff_toList {field : IdentityField} {known known' : Option α} {value : α} :
    once field known value = .ok known' ↔ known.toList ++ [value] = known'.toList := by
  cases known <;> cases known' <;> simp [once]

end Slots

/-! ## Loops over the parts of a certificate -/

theorem text_eq_ok_iff {a : Attribute} {s : String} : text a = .ok s ↔ a.text? = some s := by
  unfold text
  cases a.text? <;> simp

/-- A slot, as the only one of a family. -/
theorem bijective_slot (α : Type) : Function.Bijective fun (o : Option α) (_ : Unit) => o :=
  ⟨fun _ _ h => congrFun h (), fun f => ⟨f (), rfl⟩⟩

theorem instanceOf_eq_ok_iff {as : List Attribute} {known : Option String} :
    instanceOf none as = .ok known ↔ as.mapM Attribute.text? = some known.toList := by
  have hstep (known : Option String) (a : Attribute) (known' : Option String) :
      (text a >>= once .serviceInstance known) = .ok known' ↔
        ∃ v, a.text? = some v ∧ ∀ _ : Unit, known.toList ++ [v] = known'.toList := by
    simp only [Except.bind_eq_ok_iff, text_eq_ok_iff, once_eq_ok_iff_toList, forall_const]
  have hcons (known : Option String) (a : Attribute) (rest : List Attribute) :
      instanceOf known (a :: rest) =
        (text a >>= once .serviceInstance known) >>= fun known => instanceOf known rest := by
    rw [instanceOf, bind_assoc]
  rw [loop_eq_ok_iff (fun known (_ : Unit) => known) _ _ _ _ (bijective_slot String)
    (fun _ => rfl) hcons hstep]
  simp

/-- The identifiers that organizational units tell. -/
inductive UnitKind where
  | org
  | space
  | app
  deriving DecidableEq, Repr

namespace UnitKind

/-- What the units of a kind start with. -/
def mark : UnitKind → String
  | org => "organization:"
  | space => "space:"
  | app => "app:"

/-- The identifier of a kind. -/
def of (i : Identity) : UnitKind → String
  | org => i.orgId
  | space => i.spaceId
  | app => i.appId

theorem of_ne_empty {i : Identity} (h : i.Complete) (k : UnitKind) : k.of i ≠ "" := by
  obtain ⟨-, horg, hspace, happ⟩ := h
  cases k with
  | org => exact horg
  | space => exact hspace
  | app => exact happ

/-- The slot of a kind. -/
def slot (units : Units) : UnitKind → Option String
  | org => units.org
  | space => units.space
  | app => units.app

theorem bijective_slot : Function.Bijective slot := by
  constructor
  · intro units units' h
    have horg := congrFun h org
    have hspace := congrFun h space
    have happ := congrFun h app
    cases units
    cases units'
    simp only [slot] at horg hspace happ
    rw [horg, hspace, happ]
  · intro f
    refine ⟨⟨f org, f space, f app⟩, funext fun k => ?_⟩
    cases k <;> rfl

/-- What a unit tells of a kind. -/
def told? (k : UnitKind) (unit : String) : Option String := afterPrefix? k.mark unit

/-- A unit is of a kind. -/
def marks (k : UnitKind) (unit : String) : Bool := k.mark.toList.isPrefixOf unit.toList

theorem marks_iff {k : UnitKind} {unit : String} :
    k.marks unit = true ↔ ∃ id, unit = k.mark ++ id := by
  rw [marks, List.isPrefixOf_iff_prefix]
  constructor
  · rintro ⟨rest, hrest⟩
    exact ⟨String.ofList rest, String.toList_inj.1 (by simp [hrest])⟩
  · rintro ⟨id, rfl⟩
    rw [String.toList_append]
    exact List.prefix_append ..

theorem told?_eq_some_iff {k : UnitKind} {unit id : String} :
    k.told? unit = some id ↔ unit = k.mark ++ id := by
  rw [told?, afterPrefix?]
  constructor
  · intro h
    split at h
    · rename_i hmarks
      obtain ⟨id', rfl⟩ := marks_iff.1 hmarks
      simp only [String.toList_append, List.drop_left, String.ofList_toList, Option.some.injEq] at h
      rw [h]
    · cases h
  · rintro rfl
    have hmarks : k.mark.toList.isPrefixOf (k.mark ++ id).toList = true := marks_iff.2 ⟨id, rfl⟩
    rw [if_pos hmarks, String.toList_append, List.drop_left, String.ofList_toList]

/-- A unit is of one kind at most. -/
theorem eq_of_told? {k k' : UnitKind} {unit id id' : String} (h : k.told? unit = some id)
    (h' : k'.told? unit = some id') : k = k' := by
  have hhead (k : UnitKind) (id : String) :
      (k.mark ++ id).toList.head? = k.mark.toList.head? := by
    rw [String.toList_append]
    cases k <;> rfl
  have hsame : k.mark.toList.head? = k'.mark.toList.head? := by
    rw [← hhead k id, ← hhead k' id', ← told?_eq_some_iff.1 h, ← told?_eq_some_iff.1 h']
  revert hsame
  cases k <;> cases k' <;> decide

/-- The part of an identity that a kind tells. -/
def field : UnitKind → IdentityField
  | org => .org
  | space => .space
  | app => .app

/-- The slots with another content in one of them. -/
def fill (units : Units) (k : UnitKind) (content : Option String) : Units :=
  match k with
  | org => { units with org := content }
  | space => { units with space := content }
  | app => { units with app := content }

theorem slot_fill_self (units : Units) (k : UnitKind) (content : Option String) :
    slot (fill units k content) k = content := by
  cases k <;> rfl

theorem slot_fill_of_ne {units : Units} {k k' : UnitKind} {content : Option String} (h : k' ≠ k) :
    slot (fill units k content) k' = slot units k' := by
  cases k <;> cases k' <;> first | rfl | exact absurd rfl h

theorem add_of_told {k : UnitKind} {units : Units} {unit id : String} (h : k.told? unit = some id) :
    units.add unit =
      once k.field (slot units k) id >>= fun content => .ok (fill units k content) := by
  have hother {k' : UnitKind} (hne : k' ≠ k) : k'.told? unit = none :=
    Option.eq_none_iff_forall_ne_some.2 fun id' h' => hne (eq_of_told? h' h)
  unfold Units.add
  cases k with
  | org => rw [show afterPrefix? "organization:" unit = some id from h]; rfl
  | space =>
    rw [show afterPrefix? "organization:" unit = none from hother (by decide : org ≠ space),
      show afterPrefix? "space:" unit = some id from h]
    rfl
  | app =>
    rw [show afterPrefix? "organization:" unit = none from hother (by decide : org ≠ app),
      show afterPrefix? "space:" unit = none from hother (by decide : space ≠ app),
      show afterPrefix? "app:" unit = some id from h]
    rfl

theorem add_of_untold {units : Units} {unit : String} (h : ∀ k, told? k unit = none) :
    units.add unit = .ok units := by
  unfold Units.add
  rw [show afterPrefix? "organization:" unit = none from h org,
    show afterPrefix? "space:" unit = none from h space,
    show afterPrefix? "app:" unit = none from h app]

/-- A unit fills the slot of its kind, if it has one. -/
theorem add_eq_ok_iff {units units' : Units} {unit : String} :
    units.add unit = .ok units' ↔
      ∀ k, (slot units k).toList ++ (told? k unit).toList = (slot units' k).toList := by
  by_cases htold : ∃ k id, told? k unit = some id
  · obtain ⟨k, id, hid⟩ := htold
    have hother {k' : UnitKind} (hne : k' ≠ k) : k'.told? unit = none :=
      Option.eq_none_iff_forall_ne_some.2 fun id' h' => hne (eq_of_told? h' hid)
    simp only [add_of_told hid, Except.bind_eq_ok_iff, once_eq_ok_iff_toList, Except.ok.injEq]
    constructor
    · rintro ⟨content, hcontent, rfl⟩ k'
      by_cases hk : k' = k
      · rw [hk, hid, slot_fill_self]
        exact hcontent
      · rw [hother hk, slot_fill_of_ne hk]
        exact List.append_nil _
    · intro hslots
      refine ⟨slot units' k, ?_, bijective_slot.1 (funext fun k' => ?_)⟩
      · rw [← hslots k, hid, Option.toList_some]
      · by_cases hk : k' = k
        · rw [hk, slot_fill_self]
        · rw [slot_fill_of_ne hk, eq_iff_toList_eq, ← hslots k', hother hk, Option.toList_none,
            List.append_nil]
  · have hnone (k : UnitKind) : told? k unit = none :=
      Option.eq_none_iff_forall_ne_some.2 fun id hid => htold ⟨k, id, hid⟩
    rw [add_of_untold hnone, Except.ok.injEq]
    constructor
    · rintro rfl k
      rw [hnone k, Option.toList_none, List.append_nil]
    · intro hslots
      refine bijective_slot.1 (funext fun k => eq_iff_toList_eq.2 ?_)
      rw [← hslots k, hnone k, Option.toList_none, List.append_nil]

end UnitKind

theorem unitsOf_eq_ok_iff {as : List Attribute} {units : Units} :
    unitsOf {} as = .ok units ↔ ∃ texts, as.mapM Attribute.text? = some texts ∧
      ∀ k : UnitKind, texts.filterMap k.told? = (UnitKind.slot units k).toList := by
  have hstep (units : Units) (a : Attribute) (units' : Units) :
      (text a >>= units.add) = .ok units' ↔ ∃ unit, a.text? = some unit ∧
        ∀ k, (UnitKind.slot units k).toList ++ (UnitKind.told? k unit).toList =
          (UnitKind.slot units' k).toList := by
    simp only [Except.bind_eq_ok_iff, text_eq_ok_iff, UnitKind.add_eq_ok_iff]
  have hcons (units : Units) (a : Attribute) (rest : List Attribute) :
      unitsOf units (a :: rest) = (text a >>= units.add) >>= fun units => unitsOf units rest := by
    rw [unitsOf, bind_assoc]
  have hempty (k : UnitKind) : (UnitKind.slot {} k).toList = [] := by
    cases k <;> rfl
  rw [loop_eq_ok_iff UnitKind.slot _ _ _ (fun unit k => (UnitKind.told? k unit).toList)
    UnitKind.bijective_slot (fun _ => rfl) hcons hstep]
  simp only [hempty, List.nil_append, List.filterMap_eq_flatMap_toList]

/-- The octets of an alternative name, if it is an address. -/
def AlternativeName.octets? : AlternativeName → Option (List UInt8)
  | .address octets => some octets
  | .other => none

/-- What an alternative name tells: an address or nothing. Octets that are no address cannot be
read. -/
def AlternativeName.read? : AlternativeName → Option (Option IpAddress)
  | .address octets => (IpAddress.ofBytes? octets).map some
  | .other => some none

/-- All names can be read and tell some addresses if and only if the octets are those of these
addresses. -/
theorem tells_iff {names : List AlternativeName} {addresses : List IpAddress} :
    (∃ told, names.mapM AlternativeName.read? = some told ∧
      told.flatMap (fun a => a.toList) = addresses) ↔
      names.filterMap AlternativeName.octets? = addresses.map IpAddress.bytes := by
  induction names generalizing addresses with
  | nil =>
    simp only [List.mapM_nil, List.filterMap_nil]
    constructor
    · rintro ⟨told, htold, rfl⟩
      cases htold
      rfl
    · intro h
      exact ⟨[], rfl, (List.map_eq_nil_iff.1 h.symm).symm⟩
  | cons name names ih =>
    cases name with
    | other =>
      have hnone : AlternativeName.other.octets? = none := rfl
      rw [List.filterMap_cons_none hnone, ← ih]
      cases hrest : names.mapM AlternativeName.read? <;>
        simp [List.mapM_cons, AlternativeName.read?, hrest]
    | address octets =>
      have hsome : (AlternativeName.address octets).octets? = some octets := rfl
      rw [List.filterMap_cons_some hsome]
      constructor
      · rintro ⟨told, htold, rfl⟩
        simp only [List.mapM_cons, AlternativeName.read?, Option.bind_eq_bind,
          Option.bind_eq_some_iff, Option.map_eq_some_iff] at htold
        obtain ⟨_, ⟨a, ha, rfl⟩, told, hrest, heq⟩ := htold
        cases heq
        rw [List.flatMap_cons, Option.toList_some, List.singleton_append, List.map_cons,
          IpAddress.ofBytes?_eq_some_iff.1 ha, ih.1 ⟨told, hrest, rfl⟩]
      · intro h
        obtain ⟨a, addresses, rfl, hfirst, hrest⟩ := List.map_eq_cons_iff.1 h.symm
        obtain ⟨told, htold, rfl⟩ := ih.2 hrest.symm
        have ha := IpAddress.ofBytes?_eq_some_iff.2 hfirst.symm
        exact ⟨some a :: told, by simp [List.mapM_cons, AlternativeName.read?, ha, htold], by simp⟩

/-- The address that is known after one more alternative name. -/
def addName (known : Option IpAddress) :
    AlternativeName → Except ExtractionFault (Option IpAddress)
  | .other => .ok known
  | .address octets =>
    match IpAddress.ofBytes? octets with
    | none => .error (.undecodable (.addressLength octets.length))
    | some address => once .address known address

theorem addressOf_cons (known : Option IpAddress) (name : AlternativeName)
    (rest : List AlternativeName) :
    addressOf known (name :: rest) = addName known name >>= fun known => addressOf known rest := by
  cases name with
  | other => rfl
  | address octets =>
    rw [addressOf, addName]
    cases IpAddress.ofBytes? octets <;> rfl

theorem addName_eq_ok_iff {known known' : Option IpAddress} {name : AlternativeName} :
    addName known name = .ok known' ↔
      ∃ a, name.read? = some a ∧ known.toList ++ a.toList = known'.toList := by
  cases name with
  | other =>
    rw [addName, AlternativeName.read?, Except.ok.injEq, eq_iff_toList_eq]
    simp only [Option.some.injEq, exists_eq_left', Option.toList_none, List.append_nil]
  | address octets =>
    rw [addName, AlternativeName.read?]
    cases IpAddress.ofBytes? octets with
    | none => simp
    | some a => simp [once_eq_ok_iff_toList]

theorem addressOf_eq_ok_iff {names : List AlternativeName} {known : Option IpAddress} :
    addressOf none names = .ok known ↔
      names.filterMap AlternativeName.octets? = known.toList.map IpAddress.bytes := by
  have hstep (known : Option IpAddress) (name : AlternativeName) (known' : Option IpAddress) :
      addName known name = .ok known' ↔
        ∃ a, name.read? = some a ∧ ∀ _ : Unit, known.toList ++ a.toList = known'.toList := by
    simp only [addName_eq_ok_iff, forall_const]
  rw [loop_eq_ok_iff (fun known (_ : Unit) => known) addName _ _
    (fun (a : Option IpAddress) _ => a.toList) (bijective_slot IpAddress) (fun _ => rfl)
    addressOf_cons hstep, ← tells_iff]
  simp only [Option.toList_none, List.nil_append, forall_const]

/-! ## What a certificate carries -/

namespace Inspected

/-- The alternative names that an extension gives. All of them have to be readable. -/
def namesOf? (value : List UInt8) : Option (List AlternativeName) := do
  let (e, _) ← Element.expect? Tag.sequence value
  Element.allOf? alternativeName? e.content

/-- A certificate gives each part of an identity once, and none of them is empty. -/
structure Carries (x : Inspected) (i : Identity) : Prop where
  /-- There is one common name. It is text. -/
  commonName : (x.subject.ofKind Attribute.commonName).mapM Attribute.text? = some [i.instanceId]
  /-- All organizational units are text, and one of them starts with each mark. -/
  units : ∃ units, (x.subject.ofKind Attribute.organizationalUnit).mapM Attribute.text? =
    some units ∧ ∀ k : UnitKind, units.filter k.marks = [k.mark ++ k.of i]
  /-- There is one extension with alternative names. It can be read, and one of them is an
  address. -/
  address : ∃ e names, x.extensions.filter (fun e => e.id == alternativeNamesId) = [e] ∧
    namesOf? e.value = some names ∧
    names.filterMap AlternativeName.octets? = [i.address.bytes]
  complete : i.Complete

theorem alternativeNames_eq_ok_some_iff {x : Inspected} {names : List AlternativeName} :
    x.alternativeNames = .ok (some names) ↔
      ∃ e, x.extensions.filter (fun e => e.id == alternativeNamesId) = [e] ∧
        namesOf? e.value = some names := only_eq_ok_some_iff

/-- The units with a mark, in front of what they tell. -/
theorem map_told (k : UnitKind) (units : List String) :
    (units.filterMap k.told?).map (k.mark ++ ·) = units.filter k.marks := by
  induction units with
  | nil => rfl
  | cons unit units ih =>
    cases htold : k.told? unit with
    | none =>
      have hmarks : ¬ k.marks unit = true := by
        rintro hmarks
        obtain ⟨id, hid⟩ := UnitKind.marks_iff.1 hmarks
        rw [UnitKind.told?_eq_some_iff.2 hid] at htold
        cases htold
      rw [List.filterMap_cons_none htold, ih, List.filter_cons_of_neg hmarks]
    | some id =>
      have hid := UnitKind.told?_eq_some_iff.1 htold
      rw [List.filterMap_cons_some htold, List.map_cons, ih,
        List.filter_cons_of_pos (UnitKind.marks_iff.2 ⟨id, hid⟩), ← hid]

/-- One unit tells the identifier of a kind if and only if one has the mark of the kind, in front of
the identifier. -/
theorem told_iff {k : UnitKind} {units : List String} {id : String} :
    units.filterMap k.told? = [id] ↔ units.filter k.marks = [k.mark ++ id] := by
  have hinjective : Function.Injective (k.mark ++ ·) := fun id id' =>
    (String.append_right_inj _).1
  rw [← map_told, ← List.map_singleton, hinjective.list_map.eq_iff]

/-- A slot that does not count as empty is filled. -/
theorem eq_some_of_getD {known : Option String} {id : String} (h : known.getD "" = id)
    (hne : id ≠ "") : known = some id := by
  cases known with
  | none => exact absurd h.symm hne
  | some id' => exact congrArg some h

/-- The identity is the one that is carried. -/
theorem identity_eq_ok_iff {x : Inspected} {i : Identity} : x.identity = .ok i ↔ x.Carries i := by
  simp only [identity, Except.bind_eq_ok_iff, Except.mapError_eq_ok_iff, instanceOf_eq_ok_iff,
    unitsOf_eq_ok_iff]
  constructor
  · rintro ⟨instanceId, hinstance, units, ⟨texts, htexts, htold⟩, names, hnames, known, hknown, h⟩
    cases known with
    | none => cases h
    | some address =>
      obtain ⟨hi, hcomplete⟩ := Identity.make_eq_ok_iff.1 (Except.mapError_eq_ok_iff.1 h)
      have hinstanceId : instanceId = some i.instanceId :=
        eq_some_of_getD (by rw [hi]) hcomplete.1
      have hslot (k : UnitKind) : UnitKind.slot units k = some (k.of i) := by
        refine eq_some_of_getD ?_ (k.of_ne_empty hcomplete)
        rw [hi]
        cases k <;> rfl
      have haddress : i.address = address := by rw [hi]
      rw [addressOf_eq_ok_iff, ← haddress] at hknown
      obtain ⟨names, rfl⟩ : ∃ ns, names = some ns := by
        cases names with
        | none => cases hknown
        | some ns => exact ⟨ns, rfl⟩
      obtain ⟨e, honly, hread⟩ := alternativeNames_eq_ok_some_iff.1 hnames
      rw [hinstanceId] at hinstance
      refine ⟨hinstance, ⟨texts, htexts, fun k => ?_⟩, ⟨e, names, honly, hread, hknown⟩, hcomplete⟩
      rw [← told_iff, htold k, hslot k, Option.toList_some]
  · rintro ⟨hname, ⟨texts, htexts, hmarked⟩, ⟨e, names, honly, hread, hoctets⟩, hcomplete⟩
    refine ⟨some i.instanceId, hname, ⟨some i.orgId, some i.spaceId, some i.appId⟩,
      ⟨texts, htexts, fun k => ?_⟩, some names, alternativeNames_eq_ok_some_iff.2 ⟨e, honly, hread⟩,
      some i.address, addressOf_eq_ok_iff.2 hoctets,
      Except.mapError_eq_ok_iff.2 (Identity.make_eq_ok_iff.2 ⟨rfl, hcomplete⟩)⟩
    rw [told_iff.2 (hmarked k)]
    cases k <;> rfl

/-! ## Order and what tells nothing -/

/-- A text that is no unit of any kind. -/
def isIdle (unit : String) : Bool := [UnitKind.org, .space, .app].all fun k => !k.marks unit

theorem isIdle_iff {unit : String} : isIdle unit = true ↔ ∀ k : UnitKind, k.marks unit = false := by
  simp only [isIdle, List.all_cons, List.all_nil, Bool.and_true, Bool.and_eq_true,
    Bool.not_eq_true']
  constructor
  · rintro ⟨horg, hspace, happ⟩ k
    cases k with
    | org => exact horg
    | space => exact hspace
    | app => exact happ
  · exact fun h => ⟨h .org, h .space, h .app⟩

/-- An attribute that identities depend on: a common name, or an organizational unit, unless it is
text without a mark. -/
def counts (a : Attribute) : Bool :=
  a.id == Attribute.commonName ||
    (a.id == Attribute.organizationalUnit && !a.text?.any isIdle)

/-- Two certificates with their alternative names have the same attributes that count, and the same
addresses, in any order. -/
structure Similar (x y : Inspected) (names names' : List AlternativeName) : Prop where
  attributes : (x.subject.flatten.filter counts).Perm (y.subject.flatten.filter counts)
  addresses : (names.filterMap AlternativeName.octets?).Perm
    (names'.filterMap AlternativeName.octets?)

theorem Similar.symm {x y : Inspected} {names names' : List AlternativeName}
    (h : x.Similar y names names') : y.Similar x names' names :=
  ⟨h.attributes.symm, h.addresses.symm⟩

/-- A list can be read as a whole if each of its elements can. -/
theorem mapM_eq_some_iff {α β : Type} {f : α → Option β} {as : List α} {bs : List β} :
    as.mapM f = some bs ↔ (∀ a ∈ as, (f a).isSome) ∧ as.filterMap f = bs := by
  induction as generalizing bs with
  | nil => simp
  | cons a as ih =>
    cases ha : f a with
    | none => simp [List.mapM_cons, ha]
    | some b =>
      have hcons : (a :: as).mapM f = (as.mapM f).map (b :: ·) := by
        cases hrest : as.mapM f <;> simp [List.mapM_cons, ha, hrest]
      simp only [hcons, Option.map_eq_some_iff, ih, List.forall_mem_cons, ha, Option.isSome_some,
        true_and, List.filterMap_cons_some ha, and_assoc, exists_and_left, exists_eq_left']

/-- The common names count, all of them. -/
theorem ofKind_commonName (x : Inspected) :
    x.subject.ofKind Attribute.commonName =
      (x.subject.flatten.filter counts).filter (fun a => a.id == Attribute.commonName) := by
  rw [Name.ofKind, List.filter_filter]
  refine List.filter_congr fun a _ => ?_
  cases hid : a.id == Attribute.commonName <;> simp [counts, hid]

/-- The units that count. -/
theorem filter_ofKind_unit (x : Inspected) :
    (x.subject.ofKind Attribute.organizationalUnit).filter (fun a => !a.text?.any isIdle) =
      (x.subject.flatten.filter counts).filter (fun a => a.id == Attribute.organizationalUnit) := by
  rw [Name.ofKind, List.filter_filter, List.filter_filter]
  refine List.filter_congr fun a _ => ?_
  cases hid : a.id == Attribute.organizationalUnit with
  | false => simp
  | true =>
    have hother : (a.id == Attribute.commonName) = false := by
      rw [beq_iff_eq.1 hid]
      decide
    simp [counts, hid, hother]

/-- The units of a kind are among those that count. -/
theorem filter_marks (k : UnitKind) (as : List Attribute) :
    (as.filterMap Attribute.text?).filter k.marks =
      ((as.filter fun a => !a.text?.any isIdle).filterMap Attribute.text?).filter k.marks := by
  rw [List.filterMap_filter, List.filter_filterMap, List.filter_filterMap]
  refine List.filterMap_congr fun a _ => ?_
  cases htext : a.text? with
  | none => simp
  | some unit =>
    cases hidle : isIdle unit with
    | false => simp [hidle]
    | true => simp [hidle, isIdle_iff.1 hidle k]

/-- All units are text if those are that count. -/
theorem isSome_text?_of_counts {as : List Attribute}
    (h : ∀ a ∈ as.filter (fun a => !a.text?.any isIdle), a.text?.isSome) :
    ∀ a ∈ as, a.text?.isSome := by
  intro a ha
  cases htext : a.text? with
  | some unit => rfl
  | none =>
    have hcounts := h a (List.mem_filter.2 ⟨ha, by simp [htext]⟩)
    rwa [htext] at hcounts

theorem Carries.of_similar {x y : Inspected} {names names' : List AlternativeName} {i : Identity}
    (h : x.Carries i) (hsimilar : x.Similar y names names')
    (hnames : x.alternativeNames = .ok (some names))
    (hnames' : y.alternativeNames = .ok (some names')) : y.Carries i := by
  have hperm (id : List UInt8) := hsimilar.attributes.filter fun a => a.id == id
  have hinstance := hperm Attribute.commonName
  have hunits := hperm Attribute.organizationalUnit
  rw [← ofKind_commonName, ← ofKind_commonName] at hinstance
  rw [← filter_ofKind_unit, ← filter_ofKind_unit] at hunits
  obtain ⟨units, hread, hmarked⟩ := h.units
  obtain ⟨htext, rfl⟩ := mapM_eq_some_iff.1 hread
  obtain ⟨e, names₁, honly, hnames₁, hoctets⟩ := h.address
  have hsame := alternativeNames_eq_ok_some_iff.2 ⟨e, honly, hnames₁⟩
  rw [hnames] at hsame
  cases hsame
  obtain ⟨e', honly', hread'⟩ := alternativeNames_eq_ok_some_iff.1 hnames'
  constructor
  · obtain ⟨hname, hvalues⟩ := mapM_eq_some_iff.1 h.commonName
    refine mapM_eq_some_iff.2 ⟨fun a ha => hname a (hinstance.mem_iff.2 ha), ?_⟩
    exact List.perm_singleton.1 (hvalues ▸ (hinstance.filterMap Attribute.text?).symm)
  · refine ⟨_, mapM_eq_some_iff.2 ⟨isSome_text?_of_counts fun a ha => ?_, rfl⟩, fun k => ?_⟩
    · exact htext a (List.mem_of_mem_filter (hunits.mem_iff.2 ha))
    · have hfound := hmarked k
      rw [filter_marks] at hfound ⊢
      exact List.perm_singleton.1
        (hfound ▸ ((hunits.filterMap Attribute.text?).filter k.marks).symm)
  · exact ⟨e', names', honly', hread',
      List.perm_singleton.1 (hoctets ▸ hsimilar.addresses.symm)⟩
  · exact h.complete

/-- A part of an identity is given twice, be it with the same value. -/
def GivesTwice (x : Inspected) : Prop :=
  1 < (x.subject.ofKind Attribute.commonName).length ∨
  (∃ k : UnitKind, 1 < (((x.subject.ofKind Attribute.organizationalUnit).filterMap
    Attribute.text?).filter k.marks).length) ∨
  ∃ names, x.alternativeNames = .ok (some names) ∧
    1 < (names.filterMap AlternativeName.octets?).length

theorem Carries.not_givesTwice {x : Inspected} {i : Identity} (h : x.Carries i) :
    ¬ x.GivesTwice := by
  rintro (hname | ⟨k, hmarked⟩ | ⟨names, hnames, haddress⟩)
  · obtain ⟨htext, hvalues⟩ := mapM_eq_some_iff.1 h.commonName
    have hlength : (x.subject.ofKind Attribute.commonName).length = 1 := by
      rw [← List.filterMap_length_eq_length.2 htext, hvalues, List.length_singleton]
    omega
  · obtain ⟨units, hread, hunits⟩ := h.units
    rw [(mapM_eq_some_iff.1 hread).2, hunits k, List.length_singleton] at hmarked
    omega
  · obtain ⟨e, names', honly, hread, hoctets⟩ := h.address
    rw [alternativeNames_eq_ok_some_iff.2 ⟨e, honly, hread⟩] at hnames
    cases hnames
    rw [hoctets, List.length_singleton] at haddress
    omega

end Inspected

/-! ## The identity of a certificate -/

theorem identity_eq_ok_iff {c : Certificate} {i : Identity} :
    c.identity = .ok i ↔ ∃ x, c.inspect = .ok x ∧ x.Carries i := by
  simp only [identity, Except.bind_eq_ok_iff, Except.mapError_eq_ok_iff,
    Inspected.identity_eq_ok_iff]

/-- **The identity of a certificate, exactly.** A certificate has an identity if and only if it
carries it: it can be inspected, gives each part once, and none is empty. Neither the order of what
it says matters, nor how much it says that is no part of an identity. If it gives a part twice it
has no identity, be it the same value. -/
theorem identity_exact :
    (∀ (c : Certificate) (i : Identity),
      c.identity = .ok i ↔ ∃ x, c.inspect = .ok x ∧ x.Carries i) ∧
    (∀ (c c' : Certificate) (x x' : Inspected) (names names' : List AlternativeName),
      c.inspect = .ok x → c'.inspect = .ok x' → x.alternativeNames = .ok (some names) →
      x'.alternativeNames = .ok (some names') → x.Similar x' names names' →
      ∀ i, c.identity = .ok i ↔ c'.identity = .ok i) ∧
    (∀ (c : Certificate) (x : Inspected), c.inspect = .ok x → x.GivesTwice →
      ∃ fault, c.identity = .error fault) := by
  have hof {c : Certificate} {x : Inspected} (hx : c.inspect = .ok x) (i : Identity) :
      c.identity = .ok i ↔ x.Carries i := by
    rw [identity_eq_ok_iff, hx]
    constructor
    · rintro ⟨x', heq, hcarries⟩
      rwa [Except.ok.inj heq]
    · exact fun hcarries => ⟨x, rfl, hcarries⟩
  refine ⟨fun c i => identity_eq_ok_iff, ?_, fun c x hx htwice => ?_⟩
  · intro c c' x x' names names' hx hx' hnames hnames' hsimilar i
    rw [hof hx, hof hx']
    exact ⟨fun h => h.of_similar hsimilar hnames hnames',
      fun h => h.of_similar hsimilar.symm hnames' hnames⟩
  · cases hidentity : c.identity with
    | error fault => exact ⟨fault, rfl⟩
    | ok i => exact absurd htwice ((hof hx i).1 hidentity).not_givesTwice

namespace Sample

/-- What the sample says, in another order and among other things. -/
def shuffled : Certificate :=
  certificate (part 3 "I")
    (part 11 "app:a" ++ part 10 "x" ++ part 11 "space:s" ++ part 11 "Space:t" ++ part 3 "i" ++
      part 11 "organization:o") 2 3
    (extension 0x11 (element 0x82 (ascii "h") ++ element 0x87 [10, 0, 0, 1]))

/-- The sample with the same app a second time. -/
def repeated : Certificate :=
  certificate (part 3 "I")
    (part 3 "i" ++ part 11 "organization:o" ++ part 11 "space:s" ++ part 11 "app:a" ++
      part 11 "app:a") 2 3
    (extension 0x11 (element 0x87 [10, 0, 0, 1]))

/-- What a certificate says, if it can be inspected. -/
def said (c : Certificate) : Inspected :=
  c.inspect.toOption.getD ⟨[], moment, moment, []⟩

theorem inspect_eq_said {c : Certificate} (h : c.inspect.toOption.isSome) :
    c.inspect = .ok (said c) := by
  unfold said
  cases hx : c.inspect with
  | error fault => simp [hx, Except.toOption] at h
  | ok x => rfl

/-- The sample has its identity in any order, and none with an app twice. -/
theorem shuffled_identity :
    leaf.inspect = .ok (said leaf) ∧ shuffled.inspect = .ok (said shuffled) ∧
      (said leaf).alternativeNames = .ok (some [.address [10, 0, 0, 1]]) ∧
      (said shuffled).alternativeNames = .ok (some [.other, .address [10, 0, 0, 1]]) ∧
      (said leaf).Similar (said shuffled) [.address [10, 0, 0, 1]]
        [.other, .address [10, 0, 0, 1]] ∧
      leaf.identity = .ok ⟨"i", "o", "s", "a", .v4 0x0a000001⟩ ∧
      shuffled.identity = .ok ⟨"i", "o", "s", "a", .v4 0x0a000001⟩ ∧
      repeated.inspect = .ok (said repeated) ∧ (said repeated).GivesTwice ∧
      ∃ fault, repeated.identity = .error fault := by
  have hleaf : leaf.inspect = .ok (said leaf) := inspect_eq_said (by decide +kernel)
  have hshuffled : shuffled.inspect = .ok (said shuffled) := inspect_eq_said (by decide +kernel)
  have hrepeated : repeated.inspect = .ok (said repeated) := inspect_eq_said (by decide +kernel)
  have hnames : (said leaf).alternativeNames = .ok (some [.address [10, 0, 0, 1]]) := by
    decide +kernel
  have hnames' : (said shuffled).alternativeNames =
      .ok (some [.other, .address [10, 0, 0, 1]]) := by
    decide +kernel
  have hsimilar : (said leaf).Similar (said shuffled) [.address [10, 0, 0, 1]]
      [.other, .address [10, 0, 0, 1]] := ⟨by decide +kernel, by decide +kernel⟩
  have hidentity : leaf.identity = .ok ⟨"i", "o", "s", "a", .v4 0x0a000001⟩ := by decide +kernel
  have htwice : (said repeated).GivesTwice := .inr (.inl ⟨.app, by decide +kernel⟩)
  obtain ⟨-, hsame, hrefused⟩ := identity_exact
  exact ⟨hleaf, hshuffled, hnames, hnames', hsimilar, hidentity,
    (hsame _ _ _ _ _ _ hleaf hshuffled hnames hnames' hsimilar _).1 hidentity, hrepeated, htwice,
    hrefused _ _ hrepeated htwice⟩

end Sample

end Certificate

end WorkloadAuth
