import Mathlib.Data.List.TakeWhile
import WorkloadAuth.Http.Message
import WorkloadAuth.Proofs.Blanks

/-!
# URLs below a base

What the URL of a text says if the text is a base, which may be any text, with a path behind it.

* `Url.lead`, `Url.trail`, `Url.trimmed_append_cons`: what is dropped at both ends of a text.
* `Url.resolve_append`: segments are resolved one after the other.
* `Url.sameOrigin_below`: all URLs below a base go to one place.
* `Url.parse?_below`: the path of a URL below a base that has no query and no fragment.
* `Request.make?_eq_some_iff`: when a URL can be asked.
-/

namespace WorkloadAuth.Http

open Text

namespace Url

/-! ## Lists without marks -/

section Lists

variable {α : Type} {p : α → Bool}

theorem eq_false_of_all {xs : List α} (h : xs.all (!p ·) = true) : ∀ x ∈ xs, p x = false := by
  simpa using h

theorem not_mem_of_all {marks xs : List Char} (h : xs.all (!marks.contains ·) = true) :
    ∀ x ∈ xs, x ∉ marks := by
  simpa using h

end Lists

/-! ## Trimming -/

/-- The start of a text without what is dropped. -/
def lead (cs : List Char) : List Char := (cs.dropWhile isOuterBlank).filter (!isInnerBlank ·)

/-- The end of a text without what is dropped. -/
def trail (cs : List Char) : List Char :=
  (cs.reverse.dropWhile isOuterBlank).reverse.filter (!isInnerBlank ·)

theorem isInnerBlank_of_not_outer {c : Char} (h : isOuterBlank c = false) :
    isInnerBlank c = false := by
  simp only [isInnerBlank, Bool.or_eq_false_iff, decide_eq_false_iff_not]
  refine ⟨⟨?_, ?_⟩, ?_⟩ <;> rintro rfl <;> revert h <;> decide

variable {c : Char}

theorem lead_append_cons (h : isOuterBlank c = false) (xs ys : List Char) :
    lead (xs ++ c :: ys) = lead xs ++ c :: ys.filter (!isInnerBlank ·) := by
  simp [lead, dropWhile_append_cons h, isInnerBlank_of_not_outer h]

/-- A character that is no blank keeps both sides apart. -/
theorem trimmed_append_cons (h : isOuterBlank c = false) (xs ys : List Char) :
    trimmed (xs ++ c :: ys) = lead xs ++ c :: trail ys := by
  have hreverse : (xs.dropWhile isOuterBlank ++ c :: ys).reverse =
      ys.reverse ++ c :: (xs.dropWhile isOuterBlank).reverse := by simp
  rw [trimmed, dropWhile_append_cons h, hreverse, dropWhile_append_cons h]
  simp [lead, trail, isInnerBlank_of_not_outer h]

/-- A text without inner blanks, whose last character is no blank, keeps its end. -/
theorem trail_eq_self {cs : List Char} (hlast : ∀ c, cs.getLast? = some c → isOuterBlank c = false)
    (hinner : ∀ c ∈ cs, isInnerBlank c = false) : trail cs = cs := by
  have hdrop : cs.reverse.dropWhile isOuterBlank = cs.reverse := by
    cases hcs : cs.reverse with
    | nil => rfl
    | cons c rest =>
      have hc : cs.getLast? = some c := by rw [List.getLast?_eq_head?_reverse, hcs]; rfl
      rw [List.dropWhile_cons_of_neg (by simp [hlast c hc])]
  rw [trail, hdrop, List.reverse_reverse, List.filter_eq_self]
  exact fun c hc => by simp [hinner c hc]

/-! ## Schemes and marks -/

theorem scheme?_append_cons (hletter : isLetter c = false) (hscheme : isSchemeChar c = false)
    (hcolon : c ≠ ':') (xs ys : List Char) :
    scheme? (xs ++ c :: ys) = (scheme? xs).map fun s => (s.1, s.2 ++ c :: ys) := by
  have hhead : ((xs ++ c :: ys).head?.map isLetter).getD false =
      (xs.head?.map isLetter).getD false := by
    cases xs <;> simp [hletter]
  unfold scheme?
  rw [hhead, takeWhile_append_cons hscheme, dropWhile_append_cons hscheme]
  split
  · cases hdrop : xs.dropWhile isSchemeChar with
    | nil =>
      rw [List.nil_append]
      split
      · rename_i heq
        exact absurd (List.cons.inj heq).1 hcolon
      · rfl
    | cons d rest =>
      rw [List.cons_append]
      by_cases hd : d = ':'
      · subst hd
        rfl
      · split
        · rename_i heq
          exact absurd (List.cons.inj heq).1 hd
        · split
          · rename_i heq
            exact absurd (List.cons.inj heq).1 hd
          · rfl
  · rfl

/-- What follows the scheme is part of the text. -/
theorem mem_of_scheme? {cs scheme rest : List Char} (h : scheme? cs = some (scheme, rest))
    {d : Char} (hd : d ∈ rest) : d ∈ cs := by
  unfold scheme? at h
  split at h
  · split at h
    · rename_i heq
      cases h
      exact List.dropWhile_subset _ (heq ▸ List.mem_cons_of_mem _ hd)
    · cases h
  · cases h

variable {mark : Char}

theorem cut_of_not_mem {cs : List Char} (h : mark ∉ cs) : cut mark cs = (cs, none) := by
  have hdrop : cs.dropWhile (· != mark) = [] := by
    rw [List.dropWhile_eq_nil_iff]
    exact fun c hc => by simpa using fun heq : c = mark => h (heq ▸ hc)
  rw [cut, hdrop]

theorem cut_append_of_not_mem {xs : List Char} (h : mark ∉ xs) (ys : List Char) :
    cut mark (xs ++ ys) = (xs ++ (cut mark ys).1, (cut mark ys).2) := by
  have hall : ∀ c ∈ xs, (c != mark) = true :=
    fun c hc => by simpa using fun heq : c = mark => h (heq ▸ hc)
  unfold cut
  rw [List.dropWhile_append_of_pos hall, List.takeWhile_append_of_pos hall]
  split <;> rfl

theorem cut_append_cons {xs : List Char} (h : mark ∉ xs) (ys : List Char) :
    cut mark (xs ++ mark :: ys) = (xs, some ys) := by
  have hnow : cut mark (mark :: ys) = ([], some ys) := by simp [cut]
  rw [cut_append_of_not_mem h, hnow, List.append_nil]

theorem cut_append_of_mem {xs : List Char} (h : mark ∈ xs) (ys : List Char) :
    (cut mark (xs ++ ys)).1 = (cut mark xs).1 := by
  have hfirst (a b : List Char) : (cut mark (a ++ mark :: b)).1 = a.takeWhile (· != mark) := by
    have hmark : (mark != mark) = false := bne_self_eq_false mark
    unfold cut
    rw [dropWhile_append_cons (p := (· != mark)) hmark,
      takeWhile_append_cons (p := (· != mark)) hmark]
    split
    · rename_i heq
      exact absurd (List.append_eq_nil_iff.1 heq).2 (List.cons_ne_nil _ _)
    · rfl
  obtain ⟨a, b, rfl⟩ := List.append_of_mem h
  rw [List.append_assoc, List.cons_append, hfirst, hfirst]

/-! ## Paths -/

/-- What is left of some segments in front of others, the latest first. -/
def settled : List (List Char) → List (List Char) → List (List Char)
  | done, [] => done
  | done, s :: rest =>
    if isDoubleDot s then settled (done.drop 1) rest
    else if isSingleDot s then settled done rest
    else settled (Percent.escape Percent.path s :: done) rest

/-- Segments in front of others are resolved before these. -/
theorem resolve_append (done first : List (List Char)) {last : List (List Char)} (h : last ≠ []) :
    resolve done (first ++ last) = resolve (settled done first) last := by
  induction first generalizing done with
  | nil => rfl
  | cons s first ih =>
    have hmore : (first ++ last).isEmpty = false := by simp [h]
    rw [List.cons_append, resolve, settled]
    split
    · rw [hmore, if_neg Bool.false_ne_true]
      exact ih _
    · split
      · rw [hmore, if_neg Bool.false_ne_true]
        exact ih _
      · exact ih _

/-- The segments that a text starts with. -/
def ahead : List Char → List (List Char)
  | [] => []
  | _ :: cs => cs.splitOnP (isSlash true)

theorem segmentsOf_append (cs xs : List Char) :
    segmentsOf true (cs.dropWhile (!isSlash true ·) ++ '/' :: xs) =
      resolve [] (ahead (cs.dropWhile (!isSlash true ·)) ++ xs.splitOnP (isSlash true)) := by
  cases hcs : cs.dropWhile (!isSlash true ·) with
  | nil => rfl
  | cons c rest =>
    have hslash : isSlash true c = true := by
      have := List.head?_dropWhile_not (!isSlash true ·) cs
      rw [hcs] at this
      simpa using this
    rw [List.cons_append, segmentsOf, if_pos hslash, List.splitOnP_append_cons _ _ rfl]
    rfl

/-! ## Below a base -/

/-- What stands behind a base. -/
def below (xs : List Char) : List Char := '/' :: 'v' :: '2' :: '/' :: xs

theorem toList_below (base s : String) :
    (base ++ "/v2/" ++ s).toList = base.toList ++ below s.toList := by
  simp [below, String.toList_append]

theorem trimmed_below (base xs : List Char) :
    trimmed (base ++ below xs) = lead base ++ below (trail xs) := by
  have hsplit : base ++ below xs = (base ++ '/' :: ['v', '2']) ++ '/' :: xs := by simp [below]
  rw [hsplit, trimmed_append_cons (by decide), lead_append_cons (by decide), List.append_assoc]
  rfl

theorem scheme?_below (cs xs : List Char) :
    scheme? (cs ++ below xs) = (scheme? cs).map fun s => (s.1, s.2 ++ below xs) :=
  scheme?_append_cons (by decide) (by decide) (by decide) cs _

/-- The place that is named behind the scheme, with what follows it in front of the last slash. -/
def place (cs : List Char) : List Char := (cs ++ ['/']).dropWhile (isSlash true) ++ ['v', '2']

theorem dropWhile_below (cs xs : List Char) :
    (cs ++ below xs).dropWhile (isSlash true) = place cs ++ '/' :: xs := by
  have hsplit : cs ++ below xs = (cs ++ ['/']) ++ 'v' :: '2' :: '/' :: xs := by simp [below]
  rw [hsplit, dropWhile_append_cons (by decide), place, List.append_assoc]
  rfl

/-- URLs with the schemes of requests have an authority and segments. -/
theorem hierarchy?_of_mem_schemes {scheme : List Char} (h : scheme ∈ Request.schemes)
    (cs : List Char) :
    hierarchy? scheme cs =
      (authority? scheme ((cs.dropWhile (isSlash true)).takeWhile (!isSlash true ·))).map
        fun authority => (authority,
          .segments (segmentsOf true
            ((cs.dropWhile (isSlash true)).dropWhile (!isSlash true ·)))) := by
  have hfile : scheme ≠ "file".toList := by
    rintro rfl
    exact absurd h (by decide)
  have hspecial : isSpecial scheme = true := by
    simp only [Request.schemes, List.mem_cons, List.not_mem_nil, or_false] at h
    rcases h with rfl | rfl <;> decide
  unfold hierarchy?
  rw [if_neg hfile, if_pos hspecial, hspecial]

theorem hierarchy?_below {scheme : List Char} (h : scheme ∈ Request.schemes) (cs xs : List Char) :
    hierarchy? scheme (cs ++ below xs) =
      (authority? scheme ((place cs).takeWhile (!isSlash true ·))).map fun authority =>
        (authority, .segments (resolve
          (settled [] (ahead ((place cs).dropWhile (!isSlash true ·))))
          (xs.splitOnP (isSlash true)))) := by
  have hslash : (!isSlash true '/') = false := rfl
  rw [hierarchy?_of_mem_schemes h, dropWhile_below,
    takeWhile_append_cons (p := (!isSlash true ·)) hslash,
    dropWhile_append_cons (p := (!isSlash true ·)) hslash, segmentsOf_append,
    resolve_append _ _ (List.splitOnP_ne_nil _ _)]

/-! ## Origins -/

/-- Two URLs name the same server, and say the same about who asks. -/
structure SameOrigin (u v : Url) : Prop where
  scheme_eq : u.scheme = v.scheme
  username_eq : u.username = v.username
  password_eq : u.password = v.password
  host_eq : u.host = v.host
  port_eq : u.port = v.port

/-- What stands in front of a mark below a base: it is in the base, or it reaches beyond. -/
theorem cut_below (mark : Char) (hmark : mark ∉ below []) (cs : List Char) :
    (∀ xs, (cut mark (cs ++ below xs)).1 = (cut mark cs).1) ∨
      ∀ xs, ∃ ys, (cut mark (cs ++ below xs)).1 = cs ++ below ys := by
  by_cases h : mark ∈ cs
  · exact .inl fun xs => cut_append_of_mem h _
  · refine .inr fun xs => ⟨(cut mark xs).1, ?_⟩
    have hbelow : below xs = below [] ++ xs := rfl
    rw [hbelow, cut_append_of_not_mem h, cut_append_of_not_mem hmark]
    rfl

theorem hierarchical_below (cs : List Char) :
    (∃ ys, ∀ xs, (cut '?' (cut '#' (cs ++ below xs)).1).1 = ys) ∨
      ∀ xs, ∃ ys, (cut '?' (cut '#' (cs ++ below xs)).1).1 = cs ++ below ys := by
  rcases cut_below '#' (by decide) cs with hfragment | hfragment
  · exact .inl ⟨_, fun xs => by rw [hfragment]⟩
  rcases cut_below '?' (by decide) cs with hquery | hquery
  · refine .inl ⟨(cut '?' cs).1, fun xs => ?_⟩
    obtain ⟨ys, hys⟩ := hfragment xs
    rw [hys, hquery]
  · refine .inr fun xs => ?_
    obtain ⟨ys, hys⟩ := hfragment xs
    rw [hys]
    exact hquery ys

/-- A text below a base has an authority that depends on the base alone. -/
theorem exists_authority_below {scheme : List Char} (h : scheme ∈ Request.schemes)
    (cs : List Char) :
    ∃ found, ∀ xs, (hierarchy? scheme (cut '?' (cut '#' (cs ++ below xs)).1).1).map (·.1) =
      found := by
  rcases hierarchical_below cs with ⟨ys, hys⟩ | hbelow
  · exact ⟨_, fun xs => by rw [hys]⟩
  · refine ⟨authority? scheme ((place cs).takeWhile (!isSlash true ·)), fun xs => ?_⟩
    obtain ⟨ys, hys⟩ := hbelow xs
    rw [hys, hierarchy?_below h]
    cases authority? scheme ((place cs).takeWhile (!isSlash true ·)) <;> rfl

theorem parse?_eq_some_iff {text : String} {u : Url} :
    parse? text = some u ↔ ∃ scheme rest authority path,
      scheme? (trimmed text.toList) = some (scheme, rest) ∧
      hierarchy? scheme (cut '?' (cut '#' rest).1).1 = some (authority, path) ∧
      u = ⟨scheme, authority.username, authority.password, authority.host, authority.port, path,
        (cut '?' (cut '#' rest).1).2.map (Percent.escape
          (if isSpecial scheme then Percent.specialQuery else Percent.query)),
        (cut '#' rest).2.map (Percent.escape Percent.fragment)⟩ := by
  simp only [parse?, Option.bind_eq_bind, Option.bind_eq_some_iff, Option.some.injEq, Prod.exists]
  constructor
  · rintro ⟨scheme, rest, hscheme, authority, path, hhierarchy, rfl⟩
    exact ⟨scheme, rest, authority, path, hscheme, hhierarchy, rfl⟩
  · rintro ⟨scheme, rest, authority, path, hscheme, hhierarchy, rfl⟩
    exact ⟨scheme, rest, hscheme, authority, path, hhierarchy, rfl⟩

/-- All URLs below a base go to one place. -/
theorem sameOrigin_below {base s t : String} {u v : Url}
    (hu : parse? (base ++ "/v2/" ++ s) = some u)
    (hv : parse? (base ++ "/v2/" ++ t) = some v) (hscheme : u.scheme ∈ Request.schemes) :
    SameOrigin u v := by
  obtain ⟨scheme, rest, authority, path, hs, hauthority, rfl⟩ := parse?_eq_some_iff.1 hu
  obtain ⟨scheme', rest', authority', path', ht, hauthority', rfl⟩ := parse?_eq_some_iff.1 hv
  rw [toList_below, trimmed_below, scheme?_below, Option.map_eq_some_iff] at hs ht
  obtain ⟨⟨lead, cs⟩, hlead, heq⟩ := hs
  obtain ⟨⟨lead', cs'⟩, hlead', heq'⟩ := ht
  obtain ⟨rfl, rfl⟩ := Prod.mk.inj (Option.some.inj (hlead.symm.trans hlead'))
  obtain ⟨rfl, rfl⟩ := Prod.mk.inj heq
  obtain ⟨rfl, rfl⟩ := Prod.mk.inj heq'
  obtain ⟨found, hfound⟩ := exists_authority_below hscheme cs
  have hsame : authority = authority' := by
    have h₁ := hfound (trail s.toList)
    have h₂ := hfound (trail t.toList)
    rw [hauthority] at h₁
    rw [hauthority'] at h₂
    exact Option.some.inj (h₁.trans h₂.symm)
  subst hsame
  exact ⟨rfl, rfl, rfl, rfl, rfl⟩

/-! ## Paths below a base -/

/-- A text without marks, of which nothing is dropped. -/
structure Plain (cs : List Char) : Prop where
  solid : ∀ c, cs.getLast? = some c → isOuterBlank c = false
  plain : ∀ c ∈ cs, c ∉ ['?', '#', '\t', '\n', '\r']

theorem Plain.trail_eq {cs : List Char} (h : Plain cs) : trail cs = cs := by
  refine trail_eq_self h.solid fun c hc => ?_
  have := h.plain c hc
  simp_all [isInnerBlank]

theorem Plain.noFragment {cs : List Char} (h : Plain cs) : '#' ∉ cs :=
  fun hmem => h.plain _ hmem (by decide)

theorem Plain.noQuery {cs : List Char} (h : Plain cs) : '?' ∉ cs :=
  fun hmem => h.plain _ hmem (by decide)

theorem Plain.append {xs ys : List Char} (hxs : ∀ c ∈ xs, c ∉ ['?', '#', '\t', '\n', '\r'])
    (h : Plain ys) (hne : ys ≠ []) : Plain (xs ++ ys) where
  solid c hc := by
    rw [List.getLast?_append, List.getLast?_eq_some_getLast hne, Option.some_or,
      ← List.getLast?_eq_some_getLast hne] at hc
    exact h.solid c hc
  plain c hc := (List.mem_append.1 hc).elim (hxs c) (h.plain c)

theorem Plain.not_mem_below {mark : Char} {cs xs : List Char} (hbase : mark ∉ cs)
    (hmark : mark ∉ below []) (h : mark ∉ xs) : mark ∉ cs ++ below xs := by
  have hbelow : below xs = below [] ++ xs := rfl
  rw [hbelow]
  simp only [List.mem_append, not_or]
  exact ⟨hbase, hmark, h⟩

theorem mem_of_mem_lead {cs : List Char} (h : c ∈ lead cs) : c ∈ cs :=
  List.dropWhile_subset _ (List.mem_filter.1 h).1

section

variable {base s : String} (hfragment : '#' ∉ base.toList) (hquery : '?' ∉ base.toList)

include hfragment hquery in
/-- Nothing is cut off. -/
theorem parse?_plain (h : Plain s.toList) :
    parse? (base ++ "/v2/" ++ s) = (scheme? (lead base.toList)).bind fun found =>
      (hierarchy? found.1 (found.2 ++ below s.toList)).map fun parts =>
        ⟨found.1, parts.1.username, parts.1.password, parts.1.host, parts.1.port, parts.2, none,
          none⟩ := by
  rw [parse?, toList_below, trimmed_below, scheme?_below, h.trail_eq]
  cases hlead : scheme? (lead base.toList) with
  | none => rfl
  | some found =>
    obtain ⟨scheme, cs⟩ := found
    have hmem {mark : Char} (hmark : mark ∉ base.toList) : mark ∉ cs :=
      fun hc => hmark (mem_of_mem_lead (mem_of_scheme? hlead hc))
    have hnoFragment : '#' ∉ cs ++ below s.toList :=
      Plain.not_mem_below (hmem hfragment) (by decide) h.noFragment
    have hnoQuery : '?' ∉ cs ++ below s.toList :=
      Plain.not_mem_below (hmem hquery) (by decide) h.noQuery
    simp only [Option.map_some, Option.bind_eq_bind, Option.bind_some, cut_of_not_mem hnoFragment,
      cut_of_not_mem hnoQuery]
    cases hierarchy? scheme (cs ++ below s.toList) <;> rfl

include hfragment in
/-- A fragment behind a text changes nothing else of its URL. -/
theorem parse?_fragment (h : Plain s.toList) (more : String) :
    ∃ fragment, parse? (base ++ "/v2/" ++ (s ++ "#" ++ more)) =
      (parse? (base ++ "/v2/" ++ s)).map fun u => { u with fragment := fragment } := by
  refine ⟨some (Percent.escape Percent.fragment (trail more.toList)), ?_⟩
  have htext : (s ++ "#" ++ more).toList = s.toList ++ '#' :: more.toList := by
    simp [String.toList_append]
  have hinner : s.toList.filter (!isInnerBlank ·) = s.toList := by
    rw [← h.trail_eq]
    simp [trail]
  have htrail : trail (s.toList ++ '#' :: more.toList) = s.toList ++ '#' :: trail more.toList := by
    have hreverse : (s.toList ++ '#' :: more.toList).reverse =
        more.toList.reverse ++ '#' :: s.toList.reverse := by simp
    rw [trail, hreverse, dropWhile_append_cons (by decide)]
    simp [trail, hinner, show isInnerBlank '#' = false by decide]
  have hbelow (xs ys : List Char) : below (xs ++ ys) = below xs ++ ys := rfl
  rw [parse?, parse?, toList_below, toList_below, trimmed_below, trimmed_below, scheme?_below,
    scheme?_below, htext, htrail, h.trail_eq]
  cases hlead : scheme? (lead base.toList) with
  | none => rfl
  | some found =>
    obtain ⟨scheme, cs⟩ := found
    have hnoFragment : '#' ∉ cs ++ below s.toList :=
      Plain.not_mem_below (fun hc => hfragment (mem_of_mem_lead (mem_of_scheme? hlead hc)))
        (by decide) h.noFragment
    simp only [Option.map_some, Option.bind_eq_bind, Option.bind_some, hbelow, ← List.append_assoc,
      cut_append_cons hnoFragment, cut_of_not_mem hnoFragment]
    cases hierarchy? scheme (cut '?' (cs ++ below s.toList)).1 <;> rfl

end

/-- Below a base without a query and a fragment, all texts without them have one URL, but for the
path; or none of them has a URL to which requests are sent. -/
theorem parse?_below {base : String} (hfragment : '#' ∉ base.toList) (hquery : '?' ∉ base.toList) :
    (∃ (u : Url) (stack : List (List Char)), u.scheme ∈ Request.schemes ∧ u.query = none ∧
      ∀ s : String, Plain s.toList → parse? (base ++ "/v2/" ++ s) = some { u with
        path := .segments (resolve stack (s.toList.splitOnP (isSlash true))) }) ∨
      ∀ s : String, Plain s.toList → ∀ u, parse? (base ++ "/v2/" ++ s) = some u →
        u.scheme ∉ Request.schemes := by
  have hparse {s : String} (h : Plain s.toList) := parse?_plain hfragment hquery h
  cases hlead : scheme? (lead base.toList) with
  | none =>
    refine .inr fun s h u hu => ?_
    rw [hparse h, hlead] at hu
    cases hu
  | some found =>
    obtain ⟨scheme, cs⟩ := found
    by_cases hweb : scheme ∈ Request.schemes
    · have hhierarchy (s : String) := hierarchy?_below hweb cs s.toList
      cases hauthority : authority? scheme ((place cs).takeWhile (!isSlash true ·)) with
      | none =>
        refine .inr fun s h u hu => ?_
        rw [hparse h, hlead, Option.bind_some, hhierarchy, hauthority] at hu
        cases hu
      | some authority =>
        refine .inl ⟨⟨scheme, authority.username, authority.password, authority.host,
          authority.port, .segments [], none, none⟩,
          settled [] (ahead ((place cs).dropWhile (!isSlash true ·))), hweb, rfl, fun s h => ?_⟩
        rw [hparse h, hlead, Option.bind_some, hhierarchy, hauthority]
        rfl
    · refine .inr fun s h u hu => ?_
      rw [hparse h, hlead, Option.bind_some, Option.map_eq_some_iff] at hu
      obtain ⟨parts, -, rfl⟩ := hu
      exact hweb

end Url

/-- When a request can be sent, and what it says. -/
theorem Request.make?_eq_some_iff {method : Method} {u : Url} {headers : List Header}
    {body : String} {request : Request} :
    Request.make? method u headers body = some request ↔
      u.scheme ∈ Request.schemes ∧ (∀ h ∈ headers, h.isValid) ∧
        request = ⟨method, { u with username := [], password := [] },
          Request.urlCredentials u ++ headers, body⟩ := by
  unfold Request.make?
  split
  · rename_i hsent
    simp only [Bool.and_eq_true, List.contains_iff_mem, List.all_eq_true] at hsent
    constructor
    · rintro ⟨⟩
      exact ⟨hsent.1, hsent.2, rfl⟩
    · rintro ⟨-, -, rfl⟩
      rfl
  · rename_i hsent
    simp only [Bool.and_eq_true, List.contains_iff_mem, List.all_eq_true] at hsent
    simp only [reduceCtorEq, false_iff]
    exact fun h => hsent ⟨h.1, h.2.1⟩

end WorkloadAuth.Http
