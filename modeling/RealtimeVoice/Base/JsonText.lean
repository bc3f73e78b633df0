import RealtimeVoice.Base.JsonRead

namespace RealtimeVoice.Base

theorem utf8Length_cons (c : Char) (cs : List Char) : utf8Length (c :: cs) = c.utf8Size + utf8Length cs := rfl

namespace Json

/-- A character that JSON writes as itself in one byte. -/
def simpleChar (c : Char) : Bool := decide (32 ≤ c.toNat ∧ c.toNat < 127) && c != '\"' && c != '\\'

def Simple (s : String) : Prop := s.toList.all simpleChar = true

instance (s : String) : Decidable (Simple s) := inferInstanceAs (Decidable (_ = true))

theorem simpleChar_iff {c : Char} :
    simpleChar c = true ↔ (32 ≤ c.toNat ∧ c.toNat < 127) ∧ c ≠ '\"' ∧ c ≠ '\\' := by
  simp [simpleChar, and_assoc]

theorem ne_of_toNat {c d : Char} (h : c.toNat ≠ d.toNat) : c ≠ d := by
  rintro rfl
  exact h rfl

theorem escapeChar_simple {c : Char} (h : simpleChar c = true) : escapeChar c = [c] := by
  obtain ⟨⟨hlow, -⟩, hquote, hslash⟩ := simpleChar_iff.mp h
  have hcontrol : ∀ d : Char, d.toNat < 32 → c ≠ d := fun d hd => ne_of_toNat (by omega)
  rw [escapeChar, if_neg hquote, if_neg hslash, if_neg (hcontrol _ (by decide)), if_neg (hcontrol _ (by decide)),
    if_neg (hcontrol _ (by decide)), if_neg (hcontrol _ (by decide)), if_neg (hcontrol _ (by decide)),
    if_neg (by omega)]

theorem utf8Size_ascii {c : Char} (h : c.toNat < 128) : c.utf8Size = 1 := by
  rw [Char.utf8Size_eq_one_iff]
  exact UInt32.le_iff_toNat_le.mpr (Nat.le_of_lt_succ h)

theorem flatMap_escapeChar_simple {cs : List Char} (h : cs.all simpleChar = true) : cs.flatMap escapeChar = cs := by
  induction cs with
  | nil => rfl
  | cons c cs ih =>
    rw [List.all_cons, Bool.and_eq_true] at h
    rw [List.flatMap_cons, escapeChar_simple h.1, ih h.2, List.singleton_append]

theorem utf8Length_simple {cs : List Char} (h : cs.all simpleChar = true) : utf8Length cs = cs.length := by
  induction cs with
  | nil => rfl
  | cons c cs ih =>
    rw [List.all_cons, Bool.and_eq_true] at h
    have hsize := utf8Size_ascii (show c.toNat < 128 by have := (simpleChar_iff.mp h.1).1; omega)
    rw [utf8Length_cons, hsize, ih h.2, List.length_cons, Nat.add_comm]

theorem simple_nulFree {s : String} (h : Simple s) : NulFree s := by
  intro hmem
  have hchar := List.all_eq_true.mp h _ hmem
  exact absurd hchar (by decide)

theorem utf8Length_dumpsStr (s : String) : utf8Length (dumpsStr s) = utf8Length (s.toList.flatMap escapeChar) + 2 := by
  rw [dumpsStr, List.cons_append, utf8Length_cons, utf8Length_append]
  change 1 + (_ + 1) = _
  omega

theorem utf8Length_dumpsStr_simple {s : String} (h : Simple s) : utf8Length (dumpsStr s) = s.toList.length + 2 := by
  rw [utf8Length_dumpsStr, flatMap_escapeChar_simple h, utf8Length_simple h]

theorem lowerHex_ascii {n : Nat} (h : n < 16) : (lowerHex n).toNat < 128 := by
  revert n
  decide

/-- No character grows by more than the six bytes of a control character. -/
theorem utf8Length_escapeChar (c : Char) : utf8Length (escapeChar c) ≤ 6 * c.utf8Size := by
  have hpos := Char.utf8Size_pos c
  rw [escapeChar]
  split_ifs with _ _ _ _ _ _ _ hcontrol
  all_goals try (change 1 + 1 ≤ _; omega)
  · have hhigh := utf8Size_ascii (lowerHex_ascii (show c.toNat / 16 < 16 by omega))
    have hlow := utf8Size_ascii (lowerHex_ascii (show c.toNat % 16 < 16 by omega))
    simp only [utf8Length_cons, hhigh, hlow]
    change 1 + (1 + (1 + (1 + (1 + (1 + 0))))) ≤ _
    omega
  · change c.utf8Size + 0 ≤ _
    omega

theorem utf8Length_flatMap_escapeChar (cs : List Char) : utf8Length (cs.flatMap escapeChar) ≤ 6 * utf8Length cs := by
  induction cs with
  | nil => rfl
  | cons c cs ih =>
    have hc := utf8Length_escapeChar c
    rw [List.flatMap_cons, utf8Length_append, utf8Length_cons]
    omega

theorem toDigits_simple (n : Nat) : (Nat.toDigits 10 n).all simpleChar = true := by
  rw [List.all_eq_true]
  intro c hc
  have hdigit := Nat.isDigit_of_mem_toDigits (by omega) (by omega) hc
  rw [Char.isDigit, Bool.and_eq_true, decide_eq_true_iff, decide_eq_true_iff] at hdigit
  have hlow : 48 ≤ c.toNat := UInt32.le_iff_toNat_le.mp hdigit.1
  have hhigh : c.toNat ≤ 57 := UInt32.le_iff_toNat_le.mp hdigit.2
  rw [simpleChar_iff]
  refine ⟨by omega, ne_of_toNat ?_, ne_of_toNat ?_⟩
  · change c.toNat ≠ 34
    omega
  · change c.toNat ≠ 92
    omega

theorem dumps_nat (n : Nat) : dumps (.int n) = Nat.toDigits 10 n := by
  rw [dumps_int, if_pos (Int.natCast_nonneg n), Int.toNat_natCast]

theorem utf8Length_dumps_nat (n : Nat) : utf8Length (dumps (.int n)) = (Nat.toDigits 10 n).length := by
  rw [dumps_nat, utf8Length_simple (toDigits_simple n)]

/-- What JSON itself writes beside strings and digits. -/
def structural : List Char :=
  ['[', ']', '\x7b', '\x7d', ',', ':', '-', 'n', 'u', 'l', 't', 'r', 'e', 'f', 'a', 's']

section NotMem

variable {c : Char} (hc : c ∉ structural) (hdigit : c.isDigit = false)

include hc

theorem not_mem_dumpsFields {fields : List (String × Json)}
    (h : ∀ f ∈ fields, c ∉ dumpsStr f.1 ∧ c ∉ dumps f.2) : c ∉ dumpsFields fields := by
  simp only [structural, List.mem_cons, List.not_mem_nil, not_or] at hc
  induction fields with
  | nil => simp [dumpsFields]
  | cons f fs ih =>
    obtain ⟨k, v⟩ := f
    obtain ⟨hk, hv⟩ := h (k, v) List.mem_cons_self
    have htail := ih (fun f hf => h f (List.mem_cons_of_mem _ hf))
    cases fs with
    | nil =>
      rw [dumpsFields]
      simp [hk, hv, hc]
    | cons g fs =>
      rw [dumpsFields]
      simp [hk, hv, hc, htail]

theorem not_mem_dumpsItems {items : List Json} (h : ∀ v ∈ items, c ∉ dumps v) : c ∉ dumpsItems items := by
  simp only [structural, List.mem_cons, List.not_mem_nil, not_or] at hc
  induction items with
  | nil => simp [dumpsItems]
  | cons v vs ih =>
    have hv := h v List.mem_cons_self
    have htail := ih (fun v hv => h v (List.mem_cons_of_mem _ hv))
    cases vs with
    | nil => rwa [dumpsItems]
    | cons w vs =>
      rw [dumpsItems]
      simp [hv, hc, htail]

include hdigit

theorem not_mem_dumps_scalar {v : Json} (hscalar : isScalar v = true) (hstr : ∀ s, text s → c ∉ dumpsStr s)
    (h : Plain exact text depth v) : c ∉ dumps v := by
  have hdigits : ∀ n, c ∉ Nat.toDigits 10 n := by
    intro n hmem
    rw [Nat.isDigit_of_mem_toDigits (by omega) (by omega) hmem] at hdigit
    cases hdigit
  simp only [structural, List.mem_cons, List.not_mem_nil, not_or] at hc
  cases v with
  | null => simp [dumps, hc]
  | bool b => cases b <;> simp [dumps, hc]
  | int n =>
    rw [dumps_int]
    split
    · exact hdigits _
    · simp [hdigits, hc]
  | float r => exact absurd h (by cases depth <;> exact id)
  | str s =>
    rw [dumps]
    exact hstr s (by cases depth <;> exact h)
  | surrogates codePoints => exact absurd h (by cases depth <;> exact id)
  | arr items => cases hscalar
  | obj fields => cases hscalar

/-- A character that JSON does not write itself comes from a string. -/
theorem not_mem_dumps {v : Json} (hstr : ∀ s, text s → c ∉ dumpsStr s) (h : Plain exact text depth v) : c ∉ dumps v := by
  have hsep := hc
  simp only [structural, List.mem_cons, List.not_mem_nil, not_or] at hsep
  induction depth generalizing v with
  | zero =>
    cases v with
    | arr items => exact absurd h id
    | obj fields => exact absurd h id
    | _ => exact not_mem_dumps_scalar hc hdigit rfl hstr h
  | succ depth ih =>
    cases v with
    | arr items =>
      rw [dumps]
      simp [hsep, not_mem_dumpsItems hc (fun v hv => ih (h v hv))]
    | obj fields =>
      rw [dumps]
      simp [hsep, not_mem_dumpsFields hc (fun f hf => ⟨hstr f.1 (h.2 f hf).1, ih (h.2 f hf).2⟩)]
    | _ => exact not_mem_dumps_scalar hc hdigit rfl hstr h

end NotMem

theorem nul_not_mem_escapeChar (c : Char) : Char.ofNat 0 ∉ escapeChar c := by
  have hhex : ∀ n < 16, Char.ofNat 0 ≠ lowerHex n := by decide
  rw [escapeChar]
  split_ifs with _ _ _ _ _ _ _ hcontrol
  all_goals try decide
  · have hhigh := hhex (c.toNat / 16) (by omega)
    have hlow := hhex (c.toNat % 16) (by omega)
    simp [hhigh, hlow]
  · rw [List.mem_singleton]
    rintro rfl
    exact hcontrol (by decide)

/-- No NUL is ever written. -/
theorem nul_not_mem_dumps {v : Json} (h : Plain exact text depth v) : Char.ofNat 0 ∉ dumps v := by
  refine not_mem_dumps (by decide) (by decide) (fun s _ => ?_) h
  rw [dumpsStr]
  simp only [List.cons_append, List.mem_cons, List.mem_append, List.mem_flatMap, List.not_mem_nil, or_false, not_or]
  refine ⟨by decide, ?_, by decide⟩
  rintro ⟨c, -, hmem⟩
  exact nul_not_mem_escapeChar c hmem

end Json

section Infix

variable {α : Type}

theorem infix_of_not_mem {a : α} {p l m : List α} (h : a ∉ l) : a :: p <:+: l ++ m ↔ a :: p <:+: m := by
  induction l with
  | nil => rfl
  | cons b l ih =>
    rw [List.mem_cons, not_or] at h
    rw [List.cons_append, List.infix_cons_iff, ih h.2, List.cons_prefix_cons]
    simp [h.1]

theorem prefix_append_cons {b : α} {p l m : List α} (h : b ∉ p) : p <+: l ++ b :: m ↔ p <+: l := by
  induction p generalizing l with
  | nil => simp
  | cons a p ih =>
    rw [List.mem_cons, not_or] at h
    cases l with
    | nil => simp [List.cons_prefix_cons, Ne.symm h.1]
    | cons c l => rw [List.cons_append, List.cons_prefix_cons, List.cons_prefix_cons, ih h.2]

end Infix

namespace Json

def escapedNull : List Char := ['\\', 'u', '0', '0', '0', '0']

theorem escapeChar_cons (c : Char) : ∃ d ds, escapeChar c = d :: ds ∧ (d = '\\' ∨ d = c) := by
  rw [escapeChar]
  split_ifs
  all_goals first
    | exact ⟨'\\', _, rfl, .inl rfl⟩
    | exact ⟨c, _, rfl, .inr rfl⟩

theorem prefix_flatMap_escapeChar {p : List Char} (hp : p.all simpleChar = true) (cs : List Char) :
    p <+: cs.flatMap escapeChar ↔ p <+: cs := by
  induction p generalizing cs with
  | nil => simp
  | cons a p ih =>
    rw [List.all_cons, Bool.and_eq_true] at hp
    cases cs with
    | nil => simp
    | cons c cs =>
      by_cases hc : simpleChar c = true
      · rw [List.flatMap_cons, escapeChar_simple hc, List.singleton_append, List.cons_prefix_cons,
          List.cons_prefix_cons, ih hp.2]
      · have hne : a ≠ c := by
          rintro rfl
          exact hc hp.1
        have hslash : a ≠ '\\' := (simpleChar_iff.mp hp.1).2.2
        obtain ⟨d, ds, hd, hdc⟩ := escapeChar_cons c
        have had : a ≠ d := by
          obtain rfl | rfl := hdc
          · exact hslash
          · exact hne
        rw [List.flatMap_cons, hd, List.cons_append, List.cons_prefix_cons, List.cons_prefix_cons]
        simp [had, hne]

theorem lowerHex_zero {n : Nat} (h : n < 16) : lowerHex n = '0' ↔ n = 0 := by
  revert n
  decide

theorem lowerHex_ne_slash {n : Nat} (h : n < 16) : lowerHex n ≠ '\\' := by
  revert n
  decide

/-- One character at a time: what its escape adds to the occurrences. -/
theorem escapedNull_infix_escapeChar (c : Char) (rest : List Char) :
    escapedNull <:+: escapeChar c ++ rest ↔
      c = Char.ofNat 0 ∨ (c = '\\' ∧ escapedNull.tail <+: rest) ∨ escapedNull <:+: rest := by
  have hpair : ∀ {d : Char}, d ≠ 'u' → d ≠ '\\' →
      (escapedNull <:+: ['\\', d] ++ rest ↔ escapedNull <:+: rest) := by
    intro d hu hslash
    rw [List.cons_append, List.singleton_append, List.infix_cons_iff, List.infix_cons_iff]
    simp [escapedNull, List.cons_prefix_cons, hu.symm, hslash.symm]
  rw [escapeChar]
  split_ifs with hquote hslash hn hr ht hb hf hcontrol
  · subst hquote
    rw [hpair (by decide) (by decide)]
    simp [show '\"' ≠ Char.ofNat 0 by decide]
  · subst hslash
    rw [List.cons_append, List.singleton_append, List.infix_cons_iff, List.infix_cons_iff]
    simp [escapedNull, List.cons_prefix_cons, show '\\' ≠ Char.ofNat 0 by decide]
  · subst hn
    rw [hpair (by decide) (by decide)]
    simp [show '\n' ≠ Char.ofNat 0 by decide]
  · subst hr
    rw [hpair (by decide) (by decide)]
    simp [show '\r' ≠ Char.ofNat 0 by decide]
  · subst ht
    rw [hpair (by decide) (by decide)]
    simp [show '\t' ≠ Char.ofNat 0 by decide]
  · subst hb
    rw [hpair (by decide) (by decide)]
    simp [show Char.ofNat 8 ≠ Char.ofNat 0 by decide, show Char.ofNat 8 ≠ '\\' by decide]
  · subst hf
    rw [hpair (by decide) (by decide)]
    simp [show Char.ofNat 12 ≠ Char.ofNat 0 by decide, show Char.ofNat 12 ≠ '\\' by decide]
  · have hhigh : c.toNat / 16 < 16 := by omega
    have hlow : c.toNat % 16 < 16 := by omega
    have hnull : c = Char.ofNat 0 ↔ c.toNat / 16 = 0 ∧ c.toNat % 16 = 0 := by
      refine ⟨?_, ?_⟩
      · rintro rfl
        decide
      · intro hzero
        rw [← Char.ofNat_toNat c, show c.toNat = 0 by omega]
    have hinner : '\\' ∉ ['u', '0', '0', lowerHex (c.toNat / 16), lowerHex (c.toNat % 16)] := by
      simp [(lowerHex_ne_slash hhigh).symm, (lowerHex_ne_slash hlow).symm]
    rw [List.cons_append, List.infix_cons_iff, escapedNull, infix_of_not_mem hinner, hnull, ← lowerHex_zero hhigh,
      ← lowerHex_zero hlow]
    simp [List.cons_prefix_cons, hslash, eq_comm]
  · have hzero : c ≠ Char.ofNat 0 := by
      rintro rfl
      exact hcontrol (by decide)
    rw [escapedNull, infix_of_not_mem (by simpa using Ne.symm hslash)]
    simp [hzero, hslash]

/-- The escape of NUL comes from a NUL, or from a text that spells it out. -/
theorem escapedNull_infix_flatMap (cs : List Char) :
    escapedNull <:+: cs.flatMap escapeChar ↔ Char.ofNat 0 ∈ cs ∨ escapedNull <:+: cs := by
  induction cs with
  | nil => simp [escapedNull]
  | cons c cs ih =>
    have hprefix : escapedNull <+: c :: cs ↔ c = '\\' ∧ escapedNull.tail <+: cs := by
      rw [escapedNull, List.cons_prefix_cons, eq_comm, List.tail_cons]
    rw [List.flatMap_cons, escapedNull_infix_escapeChar, ih, prefix_flatMap_escapeChar (by decide),
      List.infix_cons_iff, hprefix, List.mem_cons, eq_comm]
    tauto

end Json

end RealtimeVoice.Base
