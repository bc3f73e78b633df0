import RealtimeVoice.Contracts.Models

namespace RealtimeVoice.Contracts

theorem hexDigit_inj {m n : Nat} (hm : m < 16) (hn : n < 16) (h : hexDigit m = hexDigit n) : m = n := by
  have hall : ∀ m < 16, ∀ n < 16, hexDigit m = hexDigit n → m = n := by decide
  exact hall m hm n hn h

theorem byteChar_inj {a b : UInt8} (h : Char.ofNat a.toNat = Char.ofNat b.toNat) : a = b := by
  have hval : ∀ n < 256, (Char.ofNat n).toNat = n := by decide +kernel
  have heq := congrArg Char.toNat h
  rw [hval _ a.toNat_lt, hval _ b.toNat_lt] at heq
  exact UInt8.toNat_inj.mp heq

theorem unreserved_ne {b : UInt8} (h : unreserved b = true) :
    Char.ofNat b.toNat ≠ '%' ∧ Char.ofNat b.toNat ≠ ':' := by
  constructor
  all_goals
    intro hc
    simp only [unreserved, hc] at h
    revert h
    decide

theorem quoteByte_ne_colon (b : UInt8) : ':' ∉ quoteByte b := by
  have hhex : ∀ n < 16, hexDigit n ≠ ':' := by decide
  have hlt := b.toNat_lt
  rw [quoteByte]
  split
  · rename_i h
    simpa using (unreserved_ne h).2.symm
  · simp only [List.mem_cons, List.not_mem_nil, or_false, not_or]
    exact ⟨by decide, (hhex _ (by omega)).symm, (hhex _ (by omega)).symm⟩

/-- No escape sequence is the beginning of another one. -/
theorem quoteByte_append_inj {a b : UInt8} {r s : List Char} (h : quoteByte a ++ r = quoteByte b ++ s) :
    a = b ∧ r = s := by
  have ha := a.toNat_lt
  have hb := b.toNat_lt
  simp only [quoteByte] at h
  split at h <;> split at h <;> simp only [List.cons_append, List.nil_append, List.cons.injEq] at h
  · exact ⟨byteChar_inj h.1, h.2⟩
  · rename_i hu _
    exact absurd h.1 (unreserved_ne hu).1
  · rename_i hu
    exact absurd h.1.symm (unreserved_ne hu).1
  · obtain ⟨-, hhi, hlo, hr⟩ := h
    have hhi' := hexDigit_inj (by omega) (by omega) hhi
    have hlo' := hexDigit_inj (by omega) (by omega) hlo
    exact ⟨UInt8.toNat_inj.mp (by omega), hr⟩

theorem flatMap_quoteByte_inj {as bs : List UInt8} (h : as.flatMap quoteByte = bs.flatMap quoteByte) :
    as = bs := by
  have hne : ∀ b, quoteByte b ≠ [] := by
    intro b
    rw [quoteByte]
    split <;> simp
  induction as generalizing bs with
  | nil =>
    cases bs with
    | nil => rfl
    | cons b bs => exact absurd (List.append_eq_nil_iff.mp h.symm).1 (hne b)
  | cons a as ih =>
    cases bs with
    | nil => exact absurd (List.append_eq_nil_iff.mp h).1 (hne a)
    | cons b bs =>
      obtain ⟨rfl, hrest⟩ := quoteByte_append_inj h
      rw [ih hrest]

theorem quote_inj {s t : String} (h : quote s = quote t) : s = t := by
  have hbytes := flatMap_quoteByte_inj (String.ofList_injective h)
  exact String.toByteArray_inj.mp (ByteArray.ext (Array.toList_inj.mp hbytes))

theorem colon_not_mem_quote (s : String) : ':' ∉ (quote s).toList := by
  rw [quote, String.toList_ofList, List.mem_flatMap]
  rintro ⟨b, -, hb⟩
  exact quoteByte_ne_colon b hb

/-- Two lists without the separator are recovered from their joined form. -/
theorem append_separator_inj {α : Type} {x : α} {as bs cs ds : List α} (ha : x ∉ as) (hc : x ∉ cs)
    (h : as ++ x :: bs = cs ++ x :: ds) : as = cs ∧ bs = ds := by
  induction as generalizing cs with
  | nil =>
    cases cs with
    | nil => simpa using h
    | cons c cs =>
      obtain ⟨rfl, -⟩ := List.cons.inj h
      exact absurd List.mem_cons_self hc
  | cons a as ih =>
    cases cs with
    | nil =>
      obtain ⟨rfl, -⟩ := List.cons.inj h
      exact absurd List.mem_cons_self ha
    | cons c cs =>
      obtain ⟨rfl, hrest⟩ := List.cons.inj h
      obtain ⟨rfl, hbs⟩ := ih (fun hm => ha (List.mem_cons_of_mem _ hm))
        (fun hm => hc (List.mem_cons_of_mem _ hm)) hrest
      exact ⟨rfl, hbs⟩

theorem encodeRouteKey_inj {t d t' d' : String} (h : encodeRouteKey t d = encodeRouteKey t' d') :
    t = t' ∧ d = d' := by
  have hlist := congrArg String.toList h
  simp only [encodeRouteKey, String.toList_append, List.append_assoc] at hlist
  obtain ⟨ht, hd⟩ := append_separator_inj (colon_not_mem_quote t) (colon_not_mem_quote t') hlist
  exact ⟨quote_inj (String.toList_injective ht), quote_inj (String.toList_injective hd)⟩

end RealtimeVoice.Contracts
