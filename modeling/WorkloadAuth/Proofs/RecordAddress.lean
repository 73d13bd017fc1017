import WorkloadAuth.Directory.CloudController
import WorkloadAuth.Proofs.BelowBase
import WorkloadAuth.Proofs.Keys

/-!
# Addresses of records

Which record a look-up asks the Cloud Controller for, told from the target of its request. An
identifier is put into the address as it is. So it names one record only if it can stand as a
segment of a path.

* `Percent.decode_escape`: what is escaped can be read back, unless it has percent signs.
* `CloudController.IsSegment`: identifiers that can stand as a segment of a path.
* `CloudController.path_of_record`: the path and the query of the request for a record.
* `CloudController.records_addressed`: look-ups by such identifiers have the targets of their own
  records, and look-ups by others have the targets of other records.
-/

namespace WorkloadAuth

open Http

/-! ## Escaped texts -/

namespace Text.Utf8

theorem encode_injective {cs ds : List Char} (h : encode cs = encode ds) : cs = ds := by
  have hnot {cs ds : List Char} (h : encode cs = encode ds) : ¬cs < ds := by
    intro hlt
    have := encode_lt_encode hlt
    rw [h] at this
    exact List.lt_irrefl _ this
  exact List.le_antisymm (List.not_lt.1 (hnot h.symm)) (List.not_lt.1 (hnot h))

end Text.Utf8

namespace Http.Percent

theorem hexValue?_hexDigitUpper : ∀ n < 16, Text.hexValue? (Text.hexDigitUpper n) = some n := by
  decide

theorem decode_escapeByte (b : UInt8) (rest : List Char) :
    decode (escapeByte b ++ rest) = b :: decode rest := by
  have hhigh := hexValue?_hexDigitUpper (b.toNat / 16) (by have := b.toNat_lt; omega)
  have hlow := hexValue?_hexDigitUpper (b.toNat % 16) (by omega)
  have hvalue : UInt8.ofNat (b.toNat / 16 * 16 + b.toNat % 16) = b := by
    rw [Nat.div_add_mod', UInt8.ofNat_toNat]
  simp only [escapeByte, List.cons_append, List.nil_append, decode, hhigh, hlow, hvalue]

theorem decode_escapeBytes (bytes : List UInt8) (rest : List Char) :
    decode (bytes.flatMap escapeByte ++ rest) = bytes ++ decode rest := by
  induction bytes with
  | nil => rfl
  | cons b bytes ih =>
    rw [List.flatMap_cons, List.append_assoc, decode_escapeByte, ih, List.cons_append]

/-- What is escaped has digits and percent signs only. -/
theorem not_mem_escape {set : Char → Bool} {cs : List Char} {c : Char} (h : c ∉ cs)
    (hpercent : c ≠ '%') (hdigit : ∀ n < 16, c ≠ Text.hexDigitUpper n) : c ∉ escape set cs := by
  rw [escape, List.mem_flatMap]
  rintro ⟨d, hd, hc⟩
  split at hc
  · obtain ⟨b, -, hb⟩ := List.mem_flatMap.1 hc
    have hlt := b.toNat_lt
    simp only [escapeByte, List.mem_cons, List.not_mem_nil, or_false] at hb
    rcases hb with rfl | rfl | rfl
    · exact hpercent rfl
    · exact hdigit _ (by omega) rfl
    · exact hdigit _ (by omega) rfl
  · rw [List.mem_singleton] at hc
    exact h (hc ▸ hd)

theorem decode_cons {c : Char} (h : c ≠ '%') (rest : List Char) :
    decode (c :: rest) = Text.Utf8.encodeChar c ++ decode rest := by
  rw [decode]
  exact fun _ _ _ hc _ => h hc

/-- Texts without percent signs are read back. -/
theorem decode_escape (set : Char → Bool) {cs : List Char} (h : '%' ∉ cs) :
    decode (escape set cs) = Text.Utf8.encode cs := by
  induction cs with
  | nil => simp [escape, decode, Text.Utf8.encode]
  | cons c cs ih =>
    simp only [List.mem_cons, not_or] at h
    have hmore : decode (escape set cs) = Text.Utf8.encode cs := ih h.2
    have hcons : escape set (c :: cs) =
        (if set c then (Text.Utf8.encodeChar c).flatMap escapeByte else [c]) ++ escape set cs :=
      List.flatMap_cons
    have hencode : Text.Utf8.encode (c :: cs) =
        Text.Utf8.encodeChar c ++ Text.Utf8.encode cs := List.flatMap_cons
    rw [hcons, hencode]
    split
    · rw [decode_escapeBytes, hmore]
    · rw [List.singleton_append, decode_cons (Ne.symm h.1), hmore]

theorem escape_injective (set : Char → Bool) {cs ds : List Char} (hcs : '%' ∉ cs) (hds : '%' ∉ ds)
    (h : escape set cs = escape set ds) : cs = ds := by
  refine Text.Utf8.encode_injective ?_
  rw [← decode_escape set hcs, ← decode_escape set hds, h]

end Http.Percent

namespace CloudController

open Http.Url

/-! ## Segments -/

/-- An identifier that stands for one segment of a path as it is: none of it divides the parts of a
URL or is dropped, and it names no other place. -/
structure IsSegment (id : String) : Prop where
  last : ∃ c, id.toList.getLast? = some c ∧ isOuterBlank c = false
  plain : ∀ c ∈ id.toList, c ∉ ['?', '#', '\t', '\n', '\r', '/', '\\']
  noSingleDot : isSingleDot id.toList = false
  noDoubleDot : isDoubleDot id.toList = false

section

variable {id : String} (h : IsSegment id)

include h

theorem IsSegment.isPlain : Plain id.toList where
  solid c hc := by
    obtain ⟨d, hd, hsolid⟩ := h.last
    obtain rfl := Option.some.inj (hd.symm.trans hc)
    exact hsolid
  plain c hc hmark := h.plain c hc (List.mem_append_left ['/', '\\'] hmark)

theorem IsSegment.ne_nil : id.toList ≠ [] := by
  obtain ⟨c, hc, -⟩ := h.last
  intro hnil
  rw [hnil] at hc
  cases hc

theorem IsSegment.splitOnP_eq : id.toList.splitOnP (isSlash true) = [id.toList] := by
  refine List.splitOnP_eq_singleton fun c hc => ?_
  have := h.plain c hc
  simp_all [isSlash]

theorem IsSegment.slash_not_mem_escape : '/' ∉ Percent.escape Percent.path id.toList := by
  refine Percent.not_mem_escape (fun hmem => h.plain _ hmem (by decide)) (by decide) (by decide)

end

/-! ## The path of a record -/

/-- The address of a record behind the base. -/
def recordPath (kind : RecordKind) (id : String) : String := collection kind ++ "/" ++ id

theorem toList_recordPath (kind : RecordKind) (id : String) :
    (recordPath kind id).toList = (collection kind).toList ++ '/' :: id.toList := by
  simp [recordPath, String.toList_append]

theorem plain_recordPath (kind : RecordKind) {id : String} (h : Plain id.toList)
    (hne : id.toList ≠ []) : Plain (recordPath kind id).toList := by
  have hplain : ∀ c ∈ (collection kind).toList ++ ['/'], c ∉ ['?', '#', '\t', '\n', '\r'] := by
    refine not_mem_of_all ?_
    cases kind <;> decide
  have := Plain.append hplain h hne
  rwa [List.append_assoc, List.singleton_append, ← toList_recordPath] at this

theorem splitOnP_recordPath (kind : RecordKind) (id : String) :
    (recordPath kind id).toList.splitOnP (isSlash true) =
      (collection kind).toList :: id.toList.splitOnP (isSlash true) := by
  have hplain : ∀ c ∈ (collection kind).toList, isSlash true c = false := by
    refine eq_false_of_all ?_
    cases kind <;> decide
  rw [toList_recordPath, List.splitOnP_append_cons_of_forall_mem hplain '/' rfl]

/-- A collection is a segment of a path like any other. -/
theorem resolve_collection (stack : List (List Char)) (kind : RecordKind)
    (rest : List (List Char)) :
    resolve stack ((collection kind).toList :: rest) =
      resolve ((collection kind).toList :: stack) rest := by
  have hsingle : isSingleDot (collection kind).toList = false := by cases kind <;> decide
  have hdouble : isDoubleDot (collection kind).toList = false := by cases kind <;> decide
  have hescape : Percent.escape Percent.path (collection kind).toList =
      (collection kind).toList := by
    cases kind <;> decide
  rw [resolve, if_neg (by simp [hdouble]), if_neg (by simp [hsingle]), hescape]

theorem resolve_record (stack : List (List Char)) (kind : RecordKind) {id : String}
    (h : IsSegment id) :
    resolve stack ((collection kind).toList :: id.toList.splitOnP (isSlash true)) =
      stack.reverse ++ [(collection kind).toList, Percent.escape Percent.path id.toList] := by
  rw [resolve_collection, h.splitOnP_eq, resolve, if_neg (by simp [h.noDoubleDot]),
    if_neg (by simp [h.noSingleDot]), resolve]
  simp

/-- A look-up that leads up from its collection and down into another. -/
theorem resolve_detour (stack : List (List Char)) (kind kind' : RecordKind)
    (rest : List (List Char)) :
    resolve stack ((collection kind').toList :: "..".toList :: (collection kind).toList :: rest) =
      resolve stack ((collection kind).toList :: rest) := by
  rw [resolve_collection stack kind', resolve, if_pos (by decide),
    if_neg (by simp)]
  rfl

/-! ## Requests -/

theorem recordRequest?_eq (c : Connection) (kind : RecordKind) (id : String) :
    recordRequest? c kind id = (parse? (c.base ++ "/v2/" ++ recordPath kind id)).bind fun u =>
      Request.make? .get u [.bearer c.token, agent] "" := by
  have haddress : c.base ++ "/v2/" ++ collection kind ++ "/" ++ id =
      c.base ++ "/v2/" ++ recordPath kind id := by
    simp only [recordPath, String.append_assoc]
  rw [recordRequest?, getRequest?, haddress]
  rfl

/-- Only URLs with the schemes of requests are asked. -/
theorem recordRequest?_eq_none {base token : String} {kind : RecordKind} {id : String}
    (h : ∀ u, parse? (base ++ "/v2/" ++ recordPath kind id) = some u →
      u.scheme ∉ Request.schemes) : recordRequest? ⟨base, token⟩ kind id = none := by
  rw [recordRequest?_eq, Option.bind_eq_none_iff]
  intro u hu
  rw [Option.eq_none_iff_forall_ne_some]
  exact fun request hrequest => h u hu (Request.make?_eq_some_iff.1 hrequest).1

section

variable {base : String} (hfragment : '#' ∉ base.toList) (hquery : '?' ∉ base.toList)

include hfragment hquery

/-- The path of the request for a record ends with its collection and its identifier, behind what
the base says. -/
theorem path_of_record :
    ∃ front : List (List Char), ∀ (token : String) (kind : RecordKind) (id : String)
      (request : Request), IsSegment id → recordRequest? ⟨base, token⟩ kind id = some request →
        request.url.path = .segments
            (front ++ [(collection kind).toList, Percent.escape Percent.path id.toList]) ∧
          request.url.query = none := by
  rcases parse?_below hfragment hquery with ⟨u, stack, -, hnone, hparse⟩ | hnowhere
  · refine ⟨stack.reverse, fun token kind id request h hrequest => ?_⟩
    rw [recordRequest?_eq, hparse _ (plain_recordPath kind h.isPlain h.ne_nil), Option.bind_some,
      splitOnP_recordPath, resolve_record stack kind h] at hrequest
    obtain ⟨-, -, rfl⟩ := Request.make?_eq_some_iff.1 hrequest
    exact ⟨rfl, hnone⟩
  · refine ⟨[], fun token kind id request h hrequest => ?_⟩
    have hunsent := hnowhere (recordPath kind id) (plain_recordPath kind h.isPlain h.ne_nil)
    rw [recordRequest?_eq_none hunsent] at hrequest
    cases hrequest

/-- A look-up that leads up from its collection asks for a record of another. -/
theorem recordRequest?_detour (token : String) (kind kind' : RecordKind) {id : String}
    (h : IsSegment id) :
    recordRequest? ⟨base, token⟩ kind' ("../" ++ recordPath kind id) =
      recordRequest? ⟨base, token⟩ kind id := by
  have hplain := plain_recordPath kind h.isPlain h.ne_nil
  have hdots : ("../" ++ recordPath kind id).toList =
      "..".toList ++ '/' :: (recordPath kind id).toList := by
    simp [String.toList_append]
  have hplain' : Plain (recordPath kind' ("../" ++ recordPath kind id)).toList := by
    refine plain_recordPath kind' ?_ (by simp [hdots])
    rw [String.toList_append]
    exact Plain.append (not_mem_of_all (by decide)) hplain (by simp [toList_recordPath])
  rcases parse?_below hfragment hquery with ⟨u, stack, -, -, hparse⟩ | hnowhere
  · have hsplit : (recordPath kind' ("../" ++ recordPath kind id)).toList.splitOnP (isSlash true) =
        (collection kind').toList :: "..".toList :: (collection kind).toList ::
          id.toList.splitOnP (isSlash true) := by
      have hplain : ∀ c ∈ "..".toList, isSlash true c = false := eq_false_of_all (by decide)
      rw [splitOnP_recordPath, hdots, List.splitOnP_append_cons_of_forall_mem hplain '/' rfl,
        splitOnP_recordPath]
    rw [recordRequest?_eq, recordRequest?_eq, hparse _ hplain', hparse _ hplain, hsplit,
      resolve_detour, splitOnP_recordPath]
  · rw [recordRequest?_eq_none (hnowhere (recordPath kind id) hplain),
      recordRequest?_eq_none (hnowhere (recordPath kind' ("../" ++ recordPath kind id)) hplain')]

omit hquery in
/-- What stands behind a number sign in an identifier is not sent. -/
theorem recordRequest?_fragment (token : String) (kind : RecordKind) {id : String}
    (h : IsSegment id) (more : String) :
    ∃ fragment, recordRequest? ⟨base, token⟩ kind (id ++ "#" ++ more) =
      (recordRequest? ⟨base, token⟩ kind id).map fun request =>
        { request with url := { request.url with fragment := fragment } } := by
  have hplain := plain_recordPath kind h.isPlain h.ne_nil
  obtain ⟨fragment, hparse⟩ := parse?_fragment hfragment hplain more
  have hpath : recordPath kind (id ++ "#" ++ more) = recordPath kind id ++ "#" ++ more := by
    simp only [recordPath, String.append_assoc]
  refine ⟨fragment, ?_⟩
  rw [recordRequest?_eq, recordRequest?_eq, hpath]
  change (parse? (base ++ "/v2/" ++ (recordPath kind id ++ "#" ++ more))).bind _ = _
  rw [hparse]
  cases parse? (base ++ "/v2/" ++ recordPath kind id) with
  | none => rfl
  | some u =>
    rw [Option.map_some, Option.bind_some, Option.bind_some]
    unfold Request.make?
    split <;> rfl

end

/-! ## Targets -/

theorem render_inj {front : List (List Char)} {x x' y y' : List Char} (hx : '/' ∉ x)
    (hx' : '/' ∉ x') (hy : '/' ∉ y) (hy' : '/' ∉ y') :
    (UrlPath.segments (front ++ [x, y])).render = (UrlPath.segments (front ++ [x', y'])).render ↔
      x = x' ∧ y = y' := by
  constructor
  · intro h
    simp only [UrlPath.render, List.flatMap_append, List.append_cancel_left_eq, List.flatMap_cons,
      List.flatMap_nil, List.append_nil, List.cons_append, List.cons.injEq, true_and] at h
    have hsplit := congrArg (List.splitOn '/') h
    rw [List.splitOn_append_cons_self_of_not_mem hx, List.splitOn_append_cons_self_of_not_mem hx',
      List.splitOn_eq_singleton hy, List.splitOn_eq_singleton hy'] at hsplit
    simpa using hsplit
  · rintro ⟨rfl, rfl⟩
    rfl

theorem collection_inj {kind kind' : RecordKind} :
    (collection kind).toList = (collection kind').toList ↔ kind = kind' := by
  cases kind <;> cases kind' <;> decide

/-- **Addresses of records.** Below a base without a query and a fragment, an identifier that can
stand as a segment of a path is sent as the last segment, behind its collection, and nothing is
added to it. Look-ups by two such identifiers have the same target if and only if they are for the
same kind of records and the identifiers are the same when escaped; identifiers without percent
signs are the same then. By other identifiers the record of any such look-up is reached as well: by
one that leads up from its own collection, and by one with more behind a number sign. -/
theorem records_addressed {base : String} (hfragment : '#' ∉ base.toList)
    (hquery : '?' ∉ base.toList) :
    (∃ front : List (List Char), ∀ (token : String) (kind : RecordKind) (id : String)
      (request : Request), IsSegment id → recordRequest? ⟨base, token⟩ kind id = some request →
        request.url.path = .segments
            (front ++ [(collection kind).toList, Percent.escape Percent.path id.toList]) ∧
          request.url.query = none) ∧
    (∀ (token token' : String) (kind kind' : RecordKind) (id id' : String)
      (request request' : Request), IsSegment id → IsSegment id' →
      recordRequest? ⟨base, token⟩ kind id = some request →
      recordRequest? ⟨base, token'⟩ kind' id' = some request' →
        (request.url.target = request'.url.target ↔ kind = kind' ∧
          Percent.escape Percent.path id.toList = Percent.escape Percent.path id'.toList) ∧
        ('%' ∉ id.toList → '%' ∉ id'.toList →
          (request.url.target = request'.url.target ↔ kind = kind' ∧ id = id'))) ∧
    ∀ (token : String) (kind kind' : RecordKind) (id more : String), IsSegment id →
      recordRequest? ⟨base, token⟩ kind' ("../" ++ recordPath kind id) =
          recordRequest? ⟨base, token⟩ kind id ∧
        ∃ fragment, recordRequest? ⟨base, token⟩ kind (id ++ "#" ++ more) =
          (recordRequest? ⟨base, token⟩ kind id).map fun request =>
            { request with url := { request.url with fragment := fragment } } := by
  obtain ⟨front, hpath⟩ := path_of_record hfragment hquery
  refine ⟨⟨front, hpath⟩, ?_, fun token kind kind' id more h =>
    ⟨recordRequest?_detour hfragment hquery token kind kind' h,
      recordRequest?_fragment hfragment token kind h more⟩⟩
  intro token token' kind kind' id id' request request' h h' hrequest hrequest'
  have htarget : request.url.target = request'.url.target ↔ kind = kind' ∧
      Percent.escape Percent.path id.toList = Percent.escape Percent.path id'.toList := by
    have hcollection (kind : RecordKind) : '/' ∉ (collection kind).toList := by
      cases kind <;> decide
    obtain ⟨hsegments, hnone⟩ := hpath token kind id request h hrequest
    obtain ⟨hsegments', hnone'⟩ := hpath token' kind' id' request' h' hrequest'
    rw [target, target, hsegments, hsegments', hnone, hnone', Option.map_none, Option.getD_none,
      List.append_nil, List.append_nil, render_inj (hcollection kind) (hcollection kind')
      h.slash_not_mem_escape h'.slash_not_mem_escape, collection_inj]
  refine ⟨htarget, fun hpercent hpercent' => ?_⟩
  rw [htarget]
  refine and_congr_right fun _ => ⟨fun hescape => ?_, fun heq => by rw [heq]⟩
  exact String.toList_injective (Percent.escape_injective Percent.path hpercent hpercent' hescape)

namespace Sample

/-- The target of the look-up of a record at a server. -/
def target? (kind : RecordKind) (id : String) : Option String :=
  (recordRequest? ⟨"http://[::1]", "t"⟩ kind id).map fun request =>
    String.ofList request.url.target

/-- A record with a blank in its identifier has an address of its own. -/
theorem record_with_blank_addressed :
    target? .app "a b" = some "/v2/apps/a%20b" ∧ IsSegment "a b" ∧
      ∃ front : List (List Char), ∀ (token : String) (kind : RecordKind) (id : String)
        (request : Request), IsSegment id →
        recordRequest? ⟨"http://[::1]", token⟩ kind id = some request →
          request.url.path = .segments
              (front ++ [(collection kind).toList, Percent.escape Percent.path id.toList]) ∧
            request.url.query = none :=
  ⟨by decide +kernel,
    ⟨⟨'b', by decide, by decide⟩, not_mem_of_all (by decide), by decide, by decide⟩,
    (records_addressed (by decide) (by decide)).1⟩

/-- Look-ups for different records have one target: an identifier selects another resource, is cut
short, or is taken for another that is escaped. Another one adds a query. -/
theorem lookUps_collide :
    target? .app "../organizations/o" = some "/v2/organizations/o" ∧
      target? .org "o" = some "/v2/organizations/o" ∧
      target? .app "a#b" = some "/v2/apps/a" ∧ target? .app "a" = some "/v2/apps/a" ∧
      target? .app "a%20b" = some "/v2/apps/a%20b" ∧ target? .app "a b" = some "/v2/apps/a%20b" ∧
      target? .app "a?b" = some "/v2/apps/a?b" := by
  decide +kernel

end Sample

end CloudController

end WorkloadAuth
