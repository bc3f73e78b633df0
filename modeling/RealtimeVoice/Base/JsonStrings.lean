import RealtimeVoice.Base.JsonText

namespace RealtimeVoice.Base

/-- A pattern without `b` lies on one side of it. -/
theorem infix_separated {α : Type} {a b : α} {p l m : List α} (hb : b ∉ a :: p) :
    a :: p <:+: l ++ b :: m ↔ a :: p <:+: l ∨ a :: p <:+: m := by
  induction l with
  | nil =>
    have hne : a ≠ b := by
      rintro rfl
      exact hb List.mem_cons_self
    rw [List.nil_append, List.infix_cons_iff, List.cons_prefix_cons]
    simp [hne]
  | cons c l ih =>
    rw [List.cons_append, List.infix_cons_iff, ih, ← List.cons_append, prefix_append_cons hb, List.infix_cons_iff,
      or_assoc]

namespace Json

mutual

/-- The strings of a value and its keys, in the order in which they are written. -/
def strings : Json → List String
  | .str s => [s]
  | .arr items => stringsItems items
  | .obj fields => stringsFields fields
  | _ => []

def stringsItems : List Json → List String
  | [] => []
  | v :: vs => strings v ++ stringsItems vs

def stringsFields : List (String × Json) → List String
  | [] => []
  | (k, v) :: fs => k :: (strings v ++ stringsFields fs)

end

variable {exact : Int → Prop} {text text' : String → Prop} {depth : Nat} {v : Json} {fields : List (String × Json)}
  {items : List Json} {s : String}

theorem mem_stringsItems : s ∈ stringsItems items ↔ ∃ v ∈ items, s ∈ strings v := by
  induction items with
  | nil => simp [stringsItems]
  | cons v vs ih => simp [stringsItems, ih]

theorem mem_stringsFields : s ∈ stringsFields fields ↔ ∃ f ∈ fields, s = f.1 ∨ s ∈ strings f.2 := by
  induction fields with
  | nil => simp [stringsFields]
  | cons f fs ih =>
    obtain ⟨k, v⟩ := f
    simp [stringsFields, ih, or_assoc]

@[simp]
theorem strings_obj : s ∈ strings (.obj fields) ↔ ∃ f ∈ fields, s = f.1 ∨ s ∈ strings f.2 := by
  rw [strings, mem_stringsFields]

@[simp]
theorem strings_arr : s ∈ strings (.arr items) ↔ ∃ v ∈ items, s ∈ strings v := by
  rw [strings, mem_stringsItems]

/-- What is asked of the strings of a value is asked of each of them. -/
theorem Plain.mono (h : Plain exact text depth v) (hstrings : ∀ s ∈ strings v, text s → text' s) :
    Plain exact text' depth v := by
  induction depth generalizing v with
  | zero =>
    cases v with
    | str s => exact hstrings s (by simp [strings]) h
    | _ => exact h
  | succ depth ih =>
    cases v with
    | str s => exact hstrings s (by simp [strings]) h
    | arr items => exact fun v hv => ih (h v hv) fun s hs => hstrings s (strings_arr.mpr ⟨v, hv, hs⟩)
    | obj fields =>
      refine ⟨h.1, fun f hf => ⟨hstrings f.1 (strings_obj.mpr ⟨f, hf, .inl rfl⟩) (h.2 f hf).1, ?_⟩⟩
      exact ih (h.2 f hf).2 fun s hs => hstrings s (strings_obj.mpr ⟨f, hf, .inr hs⟩)
    | _ => exact h

section Pattern

variable {a : Char} {p : List Char}

/-- What a pattern meets in `before ++ rest` it meets in one of the strings or in the rest. -/
def Spells (a : Char) (p : List Char) (before : List Char) (texts : List String) : Prop :=
  ∀ rest, a :: p <:+: before ++ rest ↔ (∃ s ∈ texts, a :: p <:+: s.toList.flatMap escapeChar) ∨ a :: p <:+: rest

theorem Spells.append {before before' : List Char} {texts texts' : List String} (h : Spells a p before texts)
    (h' : Spells a p before' texts') : Spells a p (before ++ before') (texts ++ texts') := by
  intro rest
  rw [List.append_assoc, h, h', ← or_assoc]
  simp only [List.mem_append, or_and_right, exists_or]

theorem spells_plain {before : List Char} (h : a ∉ before) : Spells a p before [] := by
  intro rest
  rw [infix_of_not_mem h]
  simp

variable (ha : a ∉ structural) (hdigit : a.isDigit = false) (hquote : '\"' ∉ a :: p)

include hquote

theorem spells_str (s : String) : Spells a p (dumpsStr s) [s] := by
  intro rest
  have hne : a ∉ ['\"'] := fun h => hquote (by simp [List.mem_singleton.mp h])
  rw [show dumpsStr s ++ rest = ['\"'] ++ (s.toList.flatMap escapeChar ++ '\"' :: rest) by simp [dumpsStr],
    infix_of_not_mem hne, infix_separated hquote]
  simp

include ha

theorem spells_fields (h : ∀ f ∈ fields, Spells a p (dumps f.2) (strings f.2)) :
    Spells a p (dumpsFields fields) (stringsFields fields) := by
  have hcolon : a ∉ [':'] := fun h => ha (by simp [List.mem_singleton.mp h, structural])
  have hcomma : a ∉ [','] := fun h => ha (by simp [List.mem_singleton.mp h, structural])
  induction fields with
  | nil => exact spells_plain (by simp [dumpsFields])
  | cons f fs ih =>
    obtain ⟨k, v⟩ := f
    have hfield := ((spells_str hquote k).append (spells_plain hcolon)).append (h (k, v) List.mem_cons_self)
    have htail := ih fun f hf => h f (List.mem_cons_of_mem _ hf)
    cases fs with
    | nil => simpa [dumpsFields, stringsFields] using hfield
    | cons g fs =>
      have hall := (hfield.append (spells_plain hcomma)).append htail
      rw [dumpsFields, stringsFields]
      simpa using hall

omit hquote in
theorem spells_items (h : ∀ v ∈ items, Spells a p (dumps v) (strings v)) :
    Spells a p (dumpsItems items) (stringsItems items) := by
  have hcomma : a ∉ [','] := fun h => ha (by simp [List.mem_singleton.mp h, structural])
  induction items with
  | nil => exact spells_plain (by simp [dumpsItems])
  | cons v vs ih =>
    have htail := ih fun v hv => h v (List.mem_cons_of_mem _ hv)
    cases vs with
    | nil => simpa [dumpsItems, stringsItems] using h v List.mem_cons_self
    | cons w vs =>
      have hall := ((h v List.mem_cons_self).append (spells_plain hcomma)).append htail
      rw [dumpsItems, stringsItems]
      simpa using hall

include hdigit

theorem spells_scalar (h : Plain exact text depth v) (hscalar : isScalar v = true) :
    Spells a p (dumps v) (strings v) := by
  have hplain : strings v = [] → Spells a p (dumps v) (strings v) := by
    intro hnil
    rw [hnil]
    have hnone : Plain exact (fun _ => False) depth v := h.mono fun s hs => by rw [hnil] at hs; cases hs
    exact spells_plain (not_mem_dumps_scalar ha hdigit hscalar (fun _ hfalse => hfalse.elim) hnone)
  cases v with
  | str s =>
    rw [dumps, strings]
    exact spells_str hquote s
  | arr items => cases hscalar
  | obj fields => cases hscalar
  | _ => exact hplain rfl

/-- A pattern that JSON cannot write itself lies within the escapes of one of the strings. -/
theorem spells_dumps (h : Plain exact text depth v) : Spells a p (dumps v) (strings v) := by
  have hopen : ∀ c ∈ structural, a ∉ [c] := fun c hc hmem => ha (by rwa [List.mem_singleton.mp hmem])
  induction depth generalizing v with
  | zero =>
    cases v with
    | arr items => exact absurd h id
    | obj fields => exact absurd h id
    | _ => exact spells_scalar ha hdigit hquote h rfl
  | succ depth ih =>
    cases v with
    | arr items =>
      have hitems := spells_items ha (fun v hv => ih (h v hv)) (p := p)
      have hall := ((spells_plain (hopen '[' (by decide))).append hitems).append (spells_plain (hopen ']' (by decide)))
      rw [dumps, strings]
      simpa using hall
    | obj fields =>
      have hfields := spells_fields ha hquote fun f hf => ih (h.2 f hf).2
      have hall := ((spells_plain (hopen '\x7b' (by decide))).append hfields).append
        (spells_plain (hopen '\x7d' (by decide)))
      rw [dumps, strings]
      simpa using hall
    | _ => exact spells_scalar ha hdigit hquote h rfl

end Pattern

/-- A string whose JSON text has no escape of NUL. -/
def Clean (s : String) : Prop := NulFree s ∧ ¬escapedNull <:+: s.toList

instance (s : String) : Decidable (Clean s) := inferInstanceAs (Decidable (_ ∧ _))

theorem simple_clean (h : Simple s) : Clean s := by
  refine ⟨simple_nulFree h, fun hinfix => ?_⟩
  have hslash : '\\' ∈ s.toList := hinfix.subset List.mem_cons_self
  exact absurd (List.all_eq_true.mp h _ hslash) (by decide)

/-- JSON text has the escape of NUL if and only if one of its strings is not clean. -/
theorem escapedNull_infix_dumps (h : Plain exact text depth v) :
    escapedNull <:+: dumps v ↔ ∃ s ∈ strings v, ¬Clean s := by
  have hspells : Spells '\\' escapedNull.tail (dumps v) (strings v) :=
    spells_dumps (by decide) (by decide) (by decide) h
  have hwhole := hspells []
  rw [List.append_nil] at hwhole
  change escapedNull <:+: dumps v ↔ _ at hwhole
  rw [hwhole]
  constructor
  · rintro (⟨s, hs, hinfix⟩ | hnil)
    · refine ⟨s, hs, fun hclean => ?_⟩
      obtain hnul | hspelled := (escapedNull_infix_flatMap s.toList).mp hinfix
      · exact hclean.1 hnul
      · exact hclean.2 hspelled
    · exact absurd (List.infix_nil.mp hnil) (by decide)
  · rintro ⟨s, hs, hclean⟩
    refine .inl ⟨s, hs, (escapedNull_infix_flatMap s.toList).mpr ?_⟩
    by_contra hnone
    exact hclean ⟨fun hnul => hnone (.inl hnul), fun hspelled => hnone (.inr hspelled)⟩

end Json

end RealtimeVoice.Base
