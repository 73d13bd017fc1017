import WorkloadAuth.Chain.NameConstraints
import WorkloadAuth.Proofs.Search

/-!
# What name constraints ask for

* `GeneralName.Permitted`, `GeneralName.NotExcluded`: a name against the subtrees of a constraint.
* `Link.Obeys`: a certificate against the constraints of an issuer.
* `Yields.obeys_of_checkNames`: certificates that pass the check obey the constraints.
-/

namespace WorkloadAuth.Chain

/-! ## Names -/

/-- A name is permitted by some subtrees if it can be compared with all of them and, where some are
of its kind, lies in one of these. -/
structure GeneralName.Permitted (name : GeneralName) (bases : List (Except Fault GeneralName)) :
    Prop where
  comparable : ∀ base ∈ bases, ∃ subtree found,
    base = .ok subtree ∧ name.within true subtree = .ok found
  inside : (∃ subtree, .ok subtree ∈ bases ∧ name.within true subtree = .ok (some false)) →
    ∃ subtree, .ok subtree ∈ bases ∧ name.within true subtree = .ok (some true)

/-- A name is not excluded by some subtrees if it can be compared with all of them and lies in
none. -/
def GeneralName.NotExcluded (name : GeneralName) (bases : List (Except Fault GeneralName)) :
    Prop :=
  ∀ base ∈ bases, ∃ subtree found,
    base = .ok subtree ∧ name.within false subtree = .ok found ∧ found ≠ some true

/-- What the check of permitted subtrees has found when it succeeds, where it knows already that the
name lies inside or outside of others. -/
theorem Yields.of_checkPermitted {name : GeneralName} {bases : List (Except Fault GeneralName)}
    {inside outside : Bool} {u : Unit} (h : Yields (checkPermitted name bases inside outside) u) :
    (∀ base ∈ bases, ∃ subtree found, base = .ok subtree ∧ name.within true subtree = .ok found) ∧
      (outside ∨ (∃ subtree, .ok subtree ∈ bases ∧
        name.within true subtree = .ok (some false)) →
      inside ∨ ∃ subtree, .ok subtree ∈ bases ∧ name.within true subtree = .ok (some true)) := by
  induction bases generalizing inside outside with
  | nil =>
    refine ⟨fun base hbase => absurd hbase List.not_mem_nil, ?_⟩
    rintro (rfl | ⟨subtree, hsubtree, -⟩)
    · cases inside with
      | false => exact absurd h not_yields_throw
      | true => exact .inl rfl
    · exact absurd hsubtree List.not_mem_nil
  | cons base more ih =>
    obtain ⟨-, -, h⟩ := h.of_bind
    obtain ⟨subtree, hbase, h⟩ := h.of_bind
    obtain ⟨found, hfound, h⟩ := h.of_bind
    obtain rfl := hbase.of_ofExcept
    have hwithin := hfound.of_ofExcept
    have hmore : ∃ inside' outside', Yields (checkPermitted name more inside' outside') u ∧
        (inside' → inside ∨ found = some true) ∧ (outside ∨ found = some false → outside') := by
      rcases found with - | - | -
      · exact ⟨inside, outside, h, .inl, by simp⟩
      · exact ⟨inside, true, h, .inl, by simp⟩
      · exact ⟨true, outside, h, by simp, by simp⟩
    obtain ⟨inside', outside', hmore, hinside, houtside⟩ := hmore
    obtain ⟨hcomparable, himplies⟩ := ih hmore
    constructor
    · intro base hbase
      rcases List.mem_cons.1 hbase with rfl | hbase
      · exact ⟨subtree, found, rfl, hwithin⟩
      · exact hcomparable base hbase
    · intro hout
      have hout' : outside' ∨ ∃ subtree, .ok subtree ∈ more ∧
          name.within true subtree = .ok (some false) := by
        rcases hout with hout | ⟨subtree', hmem, hfalse⟩
        · exact .inl (houtside (.inl hout))
        rcases List.mem_cons.1 hmem with heq | hmem
        · cases heq
          rw [hwithin] at hfalse
          exact .inl (houtside (.inr (Except.ok.inj hfalse)))
        · exact .inr ⟨subtree', hmem, hfalse⟩
      rcases himplies hout' with hin | ⟨subtree', hmem, htrue⟩
      · rcases hinside hin with hin | rfl
        · exact .inl hin
        · exact .inr ⟨subtree, List.mem_cons_self, hwithin⟩
      · exact .inr ⟨subtree', List.mem_cons_of_mem _ hmem, htrue⟩

theorem Yields.permitted {name : GeneralName} {bases : List (Except Fault GeneralName)} {u : Unit}
    (h : Yields (checkPermitted name bases false false) u) : name.Permitted bases := by
  obtain ⟨hcomparable, hinside⟩ := h.of_checkPermitted
  exact ⟨hcomparable, fun houtside => (hinside (.inr houtside)).resolve_left (by decide)⟩

theorem Yields.notExcluded {name : GeneralName} {bases : List (Except Fault GeneralName)}
    {u : Unit} (h : Yields (checkExcluded name bases) u) : name.NotExcluded bases := by
  induction bases with
  | nil => exact fun base hbase => absurd hbase List.not_mem_nil
  | cons base more ih =>
    obtain ⟨-, -, h⟩ := h.of_bind
    obtain ⟨subtree, hbase, h⟩ := h.of_bind
    obtain ⟨found, hfound, h⟩ := h.of_bind
    obtain rfl := hbase.of_ofExcept
    have hwithin := hfound.of_ofExcept
    have hfound : found ≠ some true ∧ Yields (checkExcluded name more) u := by
      rcases found with - | - | -
      · exact ⟨nofun, h⟩
      · exact ⟨nofun, h⟩
      · exact absurd h not_yields_throw
    intro base hbase
    rcases List.mem_cons.1 hbase with rfl | hbase
    · exact ⟨subtree, found, rfl, hwithin, hfound.1⟩
    · exact ih hfound.2 base hbase

/-! ## Certificates -/

/-- A certificate obeys the constraints of an issuer if nothing is left of these, and all its names
can be read, are permitted and are not excluded. -/
def Link.Obeys (link : Link) (constraints : List UInt8) : Prop :=
  ∃ permitted excluded, constraintParts constraints = .ok ((permitted, excluded), []) ∧
    ∀ name ∈ link.names, ∃ n : GeneralName, name = .ok n ∧
      n.Permitted (subtrees (permitted.getD [])) ∧ n.NotExcluded (subtrees (excluded.getD []))

/-- Certificates that pass the check of name constraints obey them. -/
theorem Yields.obeys_of_checkNames {constraints : List UInt8} {links : List Link} {u : Unit}
    (h : Yields (checkNames constraints links) u) : ∀ link ∈ links, link.Obeys constraints := by
  obtain ⟨⟨⟨permitted, excluded⟩, rest⟩, hparts, h⟩ := h.of_bind
  obtain ⟨u, hlinks, h⟩ := h.of_bind
  have hrest : rest = [] := by
    cases rest with
    | nil => rfl
    | cons b rest => exact absurd h not_yields_throw
  subst hrest
  intro link hlink
  refine ⟨permitted, excluded, hparts.of_ofExcept, fun name hname => ?_⟩
  -- Both loops always go on, so their bodies succeed for every certificate and every name.
  have hlink := hlinks.of_forIn (fun link step hstep => by
    obtain ⟨-, -, hstep⟩ := hstep.of_bind
    exact hstep.of_pure) link hlink
  obtain ⟨u', hnames, -⟩ := hlink.of_bind
  have hname := hnames.of_forIn (fun name step hstep => by
    obtain ⟨n, -, hstep⟩ := hstep.of_bind
    obtain ⟨-, -, hstep⟩ := hstep.of_bind
    obtain ⟨-, -, hstep⟩ := hstep.of_bind
    exact hstep.of_pure) name hname
  obtain ⟨n, hn, hname⟩ := hname.of_bind
  obtain ⟨_, hpermitted, hname⟩ := hname.of_bind
  obtain ⟨_, hexcluded, -⟩ := hname.of_bind
  exact ⟨n, hn.of_ofExcept, hpermitted.permitted, hexcluded.notExcluded⟩

end WorkloadAuth.Chain
