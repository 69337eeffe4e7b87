import PiaOs.Model.Authorizations
import PiaOs.Piap.Canonical

/-!
# The identifiers in a canonical content

The canonical text of a content ends with its Schedule and its step, each of a fixed width. Two
contents with one text are contents of one step.
-/

namespace PiaOs

open Support

theorem Uuid.eq_of_str {u v : Uuid} (hu : u.Valido) (hv : v.Valido) (h : u.str = v.str) : u = v := by
  have href : (⟨u.int, hu⟩ : Piap.Referencia) = ⟨v.int, hv⟩ := Piap.uuid_injective h
  have hint : u.int = v.int := congrArg Fin.val href
  cases u
  cases v
  exact congrArg Uuid.mk hint

theorem Uuid.length_str (u : Uuid) : u.str.toList.length = 36 := by
  have hlength := Sha256.length_digits 16 32 u.int
  unfold Uuid.str
  simp only [String.toList_ofList, List.length_append, List.length_take, List.length_drop, hlength,
    List.length_singleton]
  omega

/-- Digits and hyphens stand in JSON as they are. -/
theorem escape_digit {c : Char} (h : isHexDigit c = true ∨ c = '-') : Json.escape c = [c] := by
  have hcode : c.toNat = 45 ∨ (48 ≤ c.toNat ∧ c.toNat ≤ 57) ∨ (97 ≤ c.toNat ∧ c.toNat ≤ 102) := by
    rcases h with h | rfl
    · unfold isHexDigit at h
      simp only [Bool.or_eq_true, Bool.and_eq_true, decide_eq_true_eq] at h
      exact .inr h
    · exact .inl rfl
  have hne (d : Char) (hd : d.toNat ≠ 45 ∧ ¬(48 ≤ d.toNat ∧ d.toNat ≤ 57) ∧
      ¬(97 ≤ d.toNat ∧ d.toNat ≤ 102)) : c ≠ d := by
    rintro rfl
    omega
  unfold Json.escape
  rw [if_neg (hne '"' (by decide)), if_neg (hne '\\' (by decide)), if_neg (hne '\n' (by decide)),
    if_neg (hne '\r' (by decide)), if_neg (hne '\t' (by decide)), if_neg (by omega),
    if_neg (by omega), if_neg (by omega)]

/-- A UUID stands in JSON as it is. -/
theorem quote_uuid (u : Uuid) : (Json.quote u.str).toList = '"' :: u.str.toList ++ ['"'] := by
  have hdigit : ∀ d ∈ digits 16 32 u.int, isHexDigit d = true := fun d hd =>
    Sha256.isHexDigit_of_mem (by decide) hd
  have hpart (m n : Nat) {c : Char} (hc : c ∈ ((digits 16 32 u.int).drop m).take n) :
      isHexDigit c = true := hdigit c (List.mem_of_mem_drop (List.mem_of_mem_take hc))
  have hplain : ∀ c ∈ u.str.toList, Json.escape c = [c] := by
    intro c hc
    refine escape_digit ?_
    unfold Uuid.str at hc
    simp only [String.toList_ofList, List.mem_append, List.mem_singleton] at hc
    rcases hc with (((((((hc | hc) | hc) | hc) | hc) | hc) | hc) | hc) | hc
    · exact .inl (hdigit c (List.mem_of_mem_take hc))
    · exact .inr hc
    · exact .inl (hpart 8 4 hc)
    · exact .inr hc
    · exact .inl (hpart 12 4 hc)
    · exact .inr hc
    · exact .inl (hpart 16 4 hc)
    · exact .inr hc
    · exact .inl (hdigit c (List.mem_of_mem_drop hc))
  have hsame : u.str.toList.flatMap Json.escape = u.str.toList := by
    rw [List.flatMap_congr hplain]
    exact List.flatMap_singleton' _
  unfold Json.quote
  rw [hsame]
  simp

namespace EnvelopeContent

/-- The fields in the order of their names. -/
theorem sortFields_content (a b c d e f g h : String) :
    Json.sortFields [("envelope_version", a), ("schedule_id", b), ("step_id", c), ("role", d),
      ("instruction_ref", e), ("context_refs", f), ("expected_output_contract", g),
      ("constraints", h)] =
    [("constraints", h), ("context_refs", f), ("envelope_version", a),
      ("expected_output_contract", g), ("instruction_ref", e), ("role", d), ("schedule_id", b),
      ("step_id", c)] := by
  simp [Json.sortFields, List.insertionSort, List.orderedInsert]

theorem intercalate_ends (fields : List String) (x y : String) :
    ∃ front, ",".intercalate (fields ++ [x, y]) = front ++ (x ++ ("," ++ y)) := by
  induction fields with
  | nil => exact ⟨"", by simp [String.append_assoc]⟩
  | cons field fields ih =>
    obtain ⟨front, hfront⟩ := ih
    cases hrest : fields ++ [x, y] with
    | nil => simp at hrest
    | cons next rest =>
      refine ⟨field ++ "," ++ front, ?_⟩
      rw [List.cons_append, hrest, String.intercalate_cons_cons, ← hrest, hfront]
      simp only [String.append_assoc]

/-- The text ends with the Schedule and the step. -/
theorem canonicalJson_ends (c : EnvelopeContent) : ∃ front : List Char,
    c.canonicalJson.toList =
      front ++ (c.scheduleId.str.toList ++ ("\",\"step_id\":\"".toList ++
        (c.stepId.str.toList ++ "\"\x7d".toList))) := by
  have hstep : (Json.quote "step_id").toList = "\"step_id\"".toList := by decide
  unfold canonicalJson asCanonicalMapping
  simp only [Json.dumps, Json.dumpsFields, sortFields_content, List.map_cons, List.map_nil]
  obtain ⟨front, hfront⟩ := intercalate_ends
    [Json.quote "constraints" ++ ":" ++ _, Json.quote "context_refs" ++ ":" ++ _,
      Json.quote "envelope_version" ++ ":" ++ _, Json.quote "expected_output_contract" ++ ":" ++ _,
      Json.quote "instruction_ref" ++ ":" ++ _, Json.quote "role" ++ ":" ++ _]
    (Json.quote "schedule_id" ++ ":" ++ Json.quote c.scheduleId.str)
    (Json.quote "step_id" ++ ":" ++ Json.quote c.stepId.str)
  simp only [List.cons_append, List.nil_append] at hfront
  rw [hfront]
  refine ⟨"\x7b".toList ++ (front.toList ++ ((Json.quote "schedule_id").toList ++ ":\"".toList)), ?_⟩
  simp only [String.toList_append, quote_uuid, hstep]
  simp

/-- Contents with one text belong to one step. -/
theorem ids_of_canonicalJson {c c' : EnvelopeContent} (h : c.canonicalJson = c'.canonicalJson)
    (hc : c.scheduleId.Valido ∧ c.stepId.Valido) (hc' : c'.scheduleId.Valido ∧ c'.stepId.Valido) :
    c.scheduleId = c'.scheduleId ∧ c.stepId = c'.stepId := by
  obtain ⟨front, hfront⟩ := c.canonicalJson_ends
  obtain ⟨front', hfront'⟩ := c'.canonicalJson_ends
  rw [h, hfront'] at hfront
  obtain ⟨-, hends⟩ := List.append_inj' hfront (by simp [Uuid.length_str])
  obtain ⟨hschedule, hstep⟩ := List.append_inj hends (by simp [Uuid.length_str])
  obtain ⟨hstep', -⟩ := List.append_inj (List.append_cancel_left hstep) (by simp [Uuid.length_str])
  exact ⟨Uuid.eq_of_str hc.1 hc'.1 (String.toList_injective hschedule.symm),
    Uuid.eq_of_str hc.2 hc'.2 (String.toList_injective hstep'.symm)⟩

end EnvelopeContent

end PiaOs
