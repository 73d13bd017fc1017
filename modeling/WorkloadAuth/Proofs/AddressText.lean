import WorkloadAuth.Net.Address
import WorkloadAuth.Proofs.Digits

/-!
# The text of addresses

* `octet?_decimal`, `group?_hexOfNat`: the parts of an address are read back from their digits.
* `longestZeroRun_spec`: the run of zero groups that a gap stands for.
* `v4Bits?_renderV4`, `v6Bits?_renderV6`: the text of an address of either family.
* `IpAddress.parse?_render`: every address is read back from its text.
-/

namespace WorkloadAuth.Net

/-! ## Octets and groups -/

theorem split_eq_splitOn (separator : Char) (cs : List Char) :
    split separator cs = cs.splitOn separator := List.splitOn_eq_splitOnP.symm

theorem octet?_decimal (rules : AddressRules) {n : Nat} (h : n < 256) :
    octet? rules (Text.decimal n) = some n := by
  have hpos := Text.length_decimal_pos n
  have hle : (Text.decimal n).length ≤ 3 :=
    (Nat.length_toDigits_le_iff (by omega) (by omega)).2 (by omega)
  have hdigits : (Text.decimal n).all Text.isDigit :=
    List.all_eq_true.2 fun c => Text.isDigit_of_mem_decimal
  have hhead : (Text.decimal n).length = 1 ∨ (Text.decimal n).head? ≠ some '0' := by
    by_cases hn : n < 10
    · exact .inl (by rw [Text.decimal_of_lt_ten hn]; rfl)
    · exact .inr (Text.head?_decimal_ne_zero (by omega))
  rw [octet?, if_pos, Text.decimalValue_decimal]
  exact ⟨hpos, hle, hdigits, by rwa [Text.decimalValue_decimal], .inr hhead⟩

theorem octet?_eq_none_of_mem (rules : AddressRules) {c : Char} {cs : List Char} (h : c ∈ cs)
    (hc : Text.isDigit c = false) : octet? rules cs = none := by
  rw [octet?, if_neg]
  rintro ⟨-, -, hdigits, -⟩
  have := List.all_eq_true.1 hdigits c h
  simp_all

theorem group?_hexOfNat {n : Nat} (h : n < 65536) : group? (Text.hexOfNat n) = some n := by
  have hpos := Text.length_hexOfNat_pos n
  have hle : (Text.hexOfNat n).length ≤ 4 :=
    (Nat.length_toDigits_le_iff (by omega) (by omega)).2 (by omega)
  obtain ⟨digits, hread, hvalue⟩ := Text.mapM_hexValue?_hexOfNat n
  rw [group?, if_pos ⟨hpos, hle⟩, hread]
  exact congrArg some hvalue

/-- Hexadecimal digits are neither colons nor points. -/
theorem not_mem_hexOfNat (n : Nat) {c : Char} (hc : Text.hexValue? c = none) :
    c ∉ Text.hexOfNat n := by
  intro h
  obtain ⟨digits, hread, -⟩ := Text.mapM_hexValue?_hexOfNat n
  exact Text.hexValue?_ne_none_of_mem hread h hc

theorem group?_eq_none_of_mem {c : Char} {cs : List Char} (h : c ∈ cs)
    (hc : Text.hexValue? c = none) : group? cs = none := by
  unfold group?
  split
  · cases hread : cs.mapM Text.hexValue? with
    | none => rfl
    | some digits => exact absurd hc (Text.hexValue?_ne_none_of_mem hread h)
  · rfl

/-! ## IPv4 addresses -/

theorem positional_octets (bits : BitVec 32) : positional 256 (octets bits) = bits.toNat := by
  have := bits.isLt
  simp only [positional, octets, List.map, List.foldl, Nat.shiftRight_eq_div_pow]
  omega

/-- The text of an IPv4 address is read back. -/
theorem v4Bits?_renderV4 (rules : AddressRules) (bits : BitVec 32) :
    v4Bits? rules (renderV4 bits) = some bits := by
  have hpoint : ∀ piece ∈ (octets bits).map Text.decimal, '.' ∉ piece := by
    intro piece hpiece hmem
    obtain ⟨n, -, rfl⟩ := List.mem_map.1 hpiece
    exact absurd (Text.isDigit_of_mem_decimal hmem) (by decide)
  have hsplit : split '.' (renderV4 bits) = (octets bits).map Text.decimal := by
    rw [split_eq_splitOn, renderV4, List.splitOn_intercalate '.' hpoint (by simp [octets])]
  have hoctet (shift : Nat) := octet?_decimal rules (Nat.mod_lt (bits.toNat >>> shift)
    (show 0 < 256 by omega))
  have hvalue := positional_octets bits
  simp only [octets, List.map] at hsplit hvalue
  simp only [v4Bits?, hsplit, hoctet, Option.bind_eq_bind, Option.bind_some, hvalue,
    BitVec.ofNat_toNat, BitVec.setWidth_eq]

theorem renderV4_eq (bits : BitVec 32) :
    ∃ a b c d, renderV4 bits = Text.decimal a ++ '.' :: (Text.decimal b ++ '.' ::
      (Text.decimal c ++ '.' :: Text.decimal d)) := by
  simp only [renderV4, octets, List.map, List.intercalate_cons_cons, List.intercalate_singleton,
    List.append_assoc, List.singleton_append]
  exact ⟨_, _, _, _, rfl⟩

/-- The text of an IPv4 address has digits and points only. -/
theorem not_mem_renderV4 (bits : BitVec 32) {c : Char} (hdigit : Text.isDigit c = false)
    (hpoint : c ≠ '.') : c ∉ renderV4 bits := by
  have hdecimal (n : Nat) : c ∉ Text.decimal n :=
    fun h => absurd (Text.isDigit_of_mem_decimal h) (by simp [hdigit])
  obtain ⟨_, _, _, _, h⟩ := renderV4_eq bits
  simp [h, hdecimal, hpoint]

theorem colon_not_mem_renderV4 (bits : BitVec 32) : ':' ∉ renderV4 bits :=
  not_mem_renderV4 bits rfl (by decide)

theorem point_mem_renderV4 (bits : BitVec 32) : '.' ∈ renderV4 bits := by
  obtain ⟨a, b, c, d, h⟩ := renderV4_eq bits
  simp [h]

/-- A text with a colon is no IPv4 address. -/
theorem v4Bits?_eq_none_of_colon (rules : AddressRules) {cs : List Char} (h : ':' ∈ cs) :
    v4Bits? rules cs = none := by
  unfold v4Bits?
  split
  · rename_i a b c d hsplit
    rw [split_eq_splitOn] at hsplit
    have hcs : ['.'].intercalate (cs.splitOn '.') = cs := List.intercalate_splitOn '.'
    have hcolon {piece : List Char} (hmem : ':' ∈ piece) : octet? rules piece = none :=
      octet?_eq_none_of_mem rules hmem (by decide)
    rw [hsplit] at hcs
    simp only [← hcs, List.intercalate_cons_cons, List.intercalate_singleton, List.mem_append,
      List.mem_singleton, Char.reduceEq, or_false] at h
    rcases h with ha | hb | hc | hd
    · simp [hcolon ha]
    · simp [hcolon hb]
    · simp [hcolon hc]
    · simp [hcolon hd]
  · rfl

/-! ## Runs of zeros -/

/-- A list starts with its run of zeros. -/
theorem take_zeroRun (gs : List Nat) :
    gs.take (zeroRun gs) = List.replicate (zeroRun gs) 0 := by
  induction gs with
  | nil => rfl
  | cons g gs ih =>
    by_cases hg : g = 0
    · simp only [zeroRun, hg, beq_self_eq_true, List.takeWhile_cons_of_pos, List.length_cons,
        List.take_succ_cons, List.replicate_succ] at ih ⊢
      rw [ih]
    · simp [zeroRun, hg]

theorem zeroRun_le (gs : List Nat) : zeroRun gs ≤ gs.length := by
  unfold zeroRun
  exact (List.takeWhile_sublist _).length_le

/-- The longest run of zeros lies in the list, and consists of zeros. -/
theorem longestZeroRun_spec (gs : List Nat) :
    (longestZeroRun gs).1 + (longestZeroRun gs).2 ≤ gs.length ∧
      (gs.drop (longestZeroRun gs).1).take (longestZeroRun gs).2 =
        List.replicate (longestZeroRun gs).2 0 := by
  induction gs with
  | nil => simp [longestZeroRun]
  | cons g gs ih =>
    simp only [longestZeroRun]
    split
    · exact ⟨by simpa using zeroRun_le (g :: gs), take_zeroRun (g :: gs)⟩
    · obtain ⟨hle, hzeros⟩ := ih
      exact ⟨by simp only [List.length_cons]; omega, by simpa using hzeros⟩

/-- A list is what stands before its longest run of zeros, the run, and what stands after it. -/
theorem longestZeroRun_split (gs : List Nat) :
    gs.take (longestZeroRun gs).1 ++ List.replicate (longestZeroRun gs).2 0 ++
      gs.drop ((longestZeroRun gs).1 + (longestZeroRun gs).2) = gs := by
  rw [← (longestZeroRun_spec gs).2, List.append_assoc, ← List.drop_drop, List.take_append_drop,
    List.take_append_drop]

/-! ## Gaps -/

theorem gap?_cons {c : Char} (hc : c ≠ ':') (cs : List Char) :
    gap? (c :: cs) = (gap? cs).map fun (before, after) => (c :: before, after) := by
  rw [gap?]
  simp_all

theorem gap?_colon_cons {c : Char} (hc : c ≠ ':') (cs : List Char) :
    gap? (':' :: c :: cs) = (gap? (c :: cs)).map fun (before, after) => (':' :: before, after) := by
  rw [gap?]
  simp_all

/-- No gap starts in a text without colons. -/
theorem gap?_append {piece : List Char} (h : ':' ∉ piece) (cs : List Char) :
    gap? (piece ++ cs) = (gap? cs).map fun (before, after) => (piece ++ before, after) := by
  induction piece with
  | nil =>
    rw [List.nil_append]
    cases gap? cs <;> rfl
  | cons c piece ih =>
    simp only [List.mem_cons, not_or] at h
    rw [List.cons_append, gap?_cons (Ne.symm h.1), ih h.2]
    cases gap? cs <;> rfl

theorem renderGroups_cons_cons (g g' : Nat) (gs : List Nat) :
    renderGroups (g :: g' :: gs) = Text.hexOfNat g ++ ':' :: renderGroups (g' :: gs) := by
  simp [renderGroups]

theorem colon_not_mem_hexOfNat (n : Nat) : ':' ∉ Text.hexOfNat n :=
  not_mem_hexOfNat n (by decide)

/-- The text of some groups starts with a digit. -/
theorem renderGroups_cons_eq_cons (g : Nat) (gs : List Nat) :
    ∃ c cs, renderGroups (g :: gs) = c :: cs ∧ c ≠ ':' := by
  obtain ⟨c, digits, hdigits⟩ := List.exists_cons_of_length_pos (Text.length_hexOfNat_pos g)
  have hc : c ≠ ':' := fun h => colon_not_mem_hexOfNat g (by simp [hdigits, h])
  cases gs with
  | nil => exact ⟨c, digits, by simp [renderGroups, hdigits], hc⟩
  | cons g' gs =>
    exact ⟨c, _, by rw [renderGroups_cons_cons, hdigits, List.cons_append], hc⟩

/-- No gap starts in the first of several groups. -/
theorem gap?_renderGroups_cons_cons (g g' : Nat) (gs : List Nat) (cs : List Char) :
    gap? (renderGroups (g :: g' :: gs) ++ cs) =
      (gap? (renderGroups (g' :: gs) ++ cs)).map fun (before, after) =>
        (Text.hexOfNat g ++ ':' :: before, after) := by
  obtain ⟨c, cs', hcs', hc⟩ := renderGroups_cons_eq_cons g' gs
  rw [renderGroups_cons_cons, List.append_assoc, gap?_append (colon_not_mem_hexOfNat g), hcs',
    List.cons_append, List.cons_append, gap?_colon_cons hc]
  cases gap? (c :: (cs' ++ cs)) <;> rfl

/-- Groups with colons between them have no gap. -/
theorem gap?_renderGroups (gs : List Nat) : gap? (renderGroups gs) = none := by
  rw [← List.append_nil (renderGroups gs)]
  induction gs with
  | nil => rfl
  | cons g gs ih =>
    cases gs with
    | nil => rw [show renderGroups [g] = Text.hexOfNat g by simp [renderGroups],
        gap?_append (colon_not_mem_hexOfNat g), gap?, Option.map_none]
    | cons g' gs => rw [gap?_renderGroups_cons_cons, ih, Option.map_none]

/-- The first gap is the one after the groups. -/
theorem gap?_renderGroups_append (gs : List Nat) (cs : List Char) :
    gap? (renderGroups gs ++ ':' :: ':' :: cs) = some (renderGroups gs, cs) := by
  induction gs with
  | nil => rfl
  | cons g gs ih =>
    cases gs with
    | nil => simp [renderGroups, gap?_append (colon_not_mem_hexOfNat g), gap?]
    | cons g' gs =>
      rw [gap?_renderGroups_cons_cons, ih, Option.map_some, renderGroups_cons_cons]

/-! ## IPv6 addresses -/

/-- The groups of an address fit into sixteen bits. -/
theorem lt_of_mem_groups {bits : BitVec 128} {g : Nat} (h : g ∈ groups bits) : g < 65536 := by
  obtain ⟨shift, -, rfl⟩ := List.mem_map.1 h
  exact Nat.mod_lt _ (by omega)

/-- The next sixteen bits of a number follow those that were read before. -/
theorem shiftRight_mul_add_mod (n k l : Nat) (h : l = k + 16) :
    n >>> l * 65536 + n >>> k % 65536 = n >>> k := by
  rw [h, Nat.shiftRight_add, Nat.shiftRight_eq_div_pow _ 16]
  exact Nat.div_add_mod' _ _

theorem positional_groups (bits : BitVec 128) : positional 65536 (groups bits) = bits.toNat := by
  have hstep := shiftRight_mul_add_mod bits.toNat
  have htop : bits.toNat >>> 112 % 65536 = bits.toNat >>> 112 := by
    have := bits.isLt
    rw [Nat.shiftRight_eq_div_pow]
    omega
  simp only [positional, groups, List.map, List.foldl, Nat.zero_mul, Nat.zero_add]
  rw [htop, hstep 96 112 rfl, hstep 80 96 rfl, hstep 64 80 rfl, hstep 48 64 rfl, hstep 32 48 rfl,
    hstep 16 32 rfl, hstep 0 16 rfl]
  rfl

/-- Groups are read back from their text. -/
theorem groups?_map_hexOfNat (rules : AddressRules) (tail : Bool) {gs : List Nat}
    (h : ∀ g ∈ gs, g < 65536) : groups? rules tail (gs.map Text.hexOfNat) = some gs := by
  induction gs with
  | nil => rfl
  | cons g gs ih =>
    have hg := group?_hexOfNat (h g List.mem_cons_self)
    have hgs := ih fun g' hg' => h g' (List.mem_cons_of_mem g hg')
    cases gs with
    | nil => simp [groups?, hg]
    | cons g' gs =>
      simp only [List.map_cons] at hgs ⊢
      simp [groups?, hg, hgs]

theorem split_renderGroups {gs : List Nat} (hne : gs ≠ []) :
    split ':' (renderGroups gs) = gs.map Text.hexOfNat := by
  rw [split_eq_splitOn, renderGroups, List.splitOn_intercalate ':' ?_ (by simpa using hne)]
  intro piece hpiece
  obtain ⟨n, -, rfl⟩ := List.mem_map.1 hpiece
  exact colon_not_mem_hexOfNat n

/-- The groups on one side of the gap are read back from their text. -/
theorem side?_renderGroups (rules : AddressRules) (tail : Bool) {gs : List Nat}
    (h : ∀ g ∈ gs, g < 65536) : side? rules tail (renderGroups gs) = some gs := by
  cases gs with
  | nil => rfl
  | cons g gs =>
    obtain ⟨c, cs, hcs, -⟩ := renderGroups_cons_eq_cons g gs
    rw [side?, if_neg (by simp [hcs]), split_renderGroups (List.cons_ne_nil g gs),
      groups?_map_hexOfNat rules tail h]

/-- The shortest text of eight groups is read back. -/
theorem v6Bits?_renderShortest (rules : AddressRules) {gs : List Nat} (hlength : gs.length = 8)
    (h : ∀ g ∈ gs, g < 65536) :
    v6Bits? rules (renderShortest gs) = some (BitVec.ofNat 128 (positional 65536 gs)) := by
  obtain ⟨hle, -⟩ := longestZeroRun_spec gs
  have hparts := longestZeroRun_split gs
  unfold renderShortest
  split
  rename_i start length hrun
  simp only [hrun] at hle hparts
  split
  · have hhead : ∀ g ∈ gs.take start, g < 65536 := fun g hg => h g (List.mem_of_mem_take hg)
    have htail : ∀ g ∈ gs.drop (start + length), g < 65536 :=
      fun g hg => h g (List.mem_of_mem_drop hg)
    have hhead_length : (gs.take start).length = start := by
      rw [List.length_take]
      omega
    have htail_length : (gs.drop (start + length)).length = 8 - start - length := by
      rw [List.length_drop]
      omega
    have hsize : start + (8 - start - length) ≤ if rules.emptyGap then 8 else 7 := by
      split <;> omega
    have hgap : 8 - (start + (8 - start - length)) = length := by omega
    rw [List.append_assoc, List.cons_append, List.cons_append, List.nil_append, v6Bits?,
      gap?_renderGroups_append]
    simp only [side?_renderGroups rules false hhead, side?_renderGroups rules true htail,
      Option.bind_eq_bind, Option.bind_some, hhead_length, htail_length, hgap, hparts]
    exact if_pos ⟨by omega, hsize⟩
  · have hne : gs ≠ [] := by
      rintro rfl
      exact absurd hlength (by decide)
    rw [v6Bits?, gap?_renderGroups, split_renderGroups hne, groups?_map_hexOfNat rules true h]
    simp only [Option.bind_eq_bind, Option.bind_some, if_pos hlength]

/-- The value of an address that is IPv4-mapped. -/
theorem toNat_of_mapped? {bits : BitVec 128} {inner : BitVec 32} (h : mapped? bits = some inner) :
    bits.toNat = 0xffff00000000 + inner.toNat := by
  unfold mapped? at h
  split at h
  · rename_i hprefix
    rw [Nat.shiftRight_eq_div_pow, mappedPrefix] at hprefix
    cases h
    rw [BitVec.toNat_ofNat]
    omega
  · cases h

/-- The text of an IPv4-mapped address is read back. -/
theorem v6Bits?_mapped (rules : AddressRules) (inner : BitVec 32) :
    v6Bits? rules ("::ffff:".toList ++ renderV4 inner) =
      some (BitVec.ofNat 128 (0xffff00000000 + inner.toNat)) := by
  have hgap : gap? ("::ffff:".toList ++ renderV4 inner) =
      some ([], "ffff".toList ++ ':' :: renderV4 inner) := rfl
  have hsplit : split ':' ("ffff".toList ++ ':' :: renderV4 inner) =
      ["ffff".toList, renderV4 inner] := by
    rw [split_eq_splitOn, List.splitOn_append_cons_self_of_not_mem (by decide),
      List.splitOn_eq_singleton (colon_not_mem_renderV4 inner)]
  have hfirst : group? "ffff".toList = some 0xffff := by decide
  have hlast : group? (renderV4 inner) = none :=
    group?_eq_none_of_mem (point_mem_renderV4 inner) (by decide)
  have hside : side? rules true ("ffff".toList ++ ':' :: renderV4 inner) =
      some [0xffff, inner.toNat / 65536, inner.toNat % 65536] := by
    rw [side?, if_neg (by simp), hsplit]
    simp only [groups?, hfirst, hlast, v4Bits?_renderV4, Option.bind_eq_bind, Option.bind_some,
      Option.map_some, if_true]
  have hvalue : positional 65536 ([] ++ List.replicate 5 0 ++
      [0xffff, inner.toNat / 65536, inner.toNat % 65536]) = 0xffff00000000 + inner.toNat := by
    simp only [positional, List.replicate, List.nil_append, List.cons_append, List.foldl]
    omega
  have hsize : 3 ≤ if rules.emptyGap then 8 else 7 := by
    split <;> omega
  rw [v6Bits?, hgap]
  simp only [show side? rules false [] = some [] from rfl, hside, Option.bind_eq_bind,
    Option.bind_some, List.length_nil, List.length_cons]
  rw [if_pos ⟨by omega, hsize⟩]
  exact congrArg (some <| BitVec.ofNat 128 ·) hvalue

/-- The text of an IPv6 address is read back. -/
theorem v6Bits?_renderV6 (rules : AddressRules) (bits : BitVec 128) :
    v6Bits? rules (renderV6 bits) = some bits := by
  unfold renderV6
  split
  · rename_i inner hinner
    rw [v6Bits?_mapped, ← toNat_of_mapped? hinner, BitVec.ofNat_toNat, BitVec.setWidth_eq]
  · rw [v6Bits?_renderShortest rules (by simp [groups]) fun g => lt_of_mem_groups,
      positional_groups, BitVec.ofNat_toNat, BitVec.setWidth_eq]

/-- The text of an IPv6 address has a colon. -/
theorem colon_mem_renderV6 (bits : BitVec 128) : ':' ∈ renderV6 bits := by
  unfold renderV6
  split
  · simp
  · unfold renderShortest
    split
    split
    · simp
    · have h : groups bits = _ :: _ :: _ := rfl
      rw [h, renderGroups_cons_cons]
      simp

/-! ## Both families -/

/-- **Round trip of addresses.** Every address is read back from its text. -/
theorem IpAddress.parse?_render (a : IpAddress) : IpAddress.parse? a.render = some a := by
  cases a with
  | v4 bits =>
    rw [IpAddress.parse?, IpAddress.render, String.toList_ofList, IpAddress.ofChars?,
      v4Bits?_renderV4]
    rfl
  | v6 bits =>
    rw [IpAddress.parse?, IpAddress.render, String.toList_ofList, IpAddress.ofChars?,
      v4Bits?_eq_none_of_colon _ (colon_mem_renderV6 bits), v6Bits?_renderV6]
    rfl

end WorkloadAuth.Net
