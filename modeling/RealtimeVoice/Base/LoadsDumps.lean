import RealtimeVoice.Base.JsonRead
import RealtimeVoice.Base.Loads

namespace RealtimeVoice.Base.Loads

open RealtimeVoice.Base.Json (escapeChar dumpsStr dumps dumpsItems dumpsFields Plain isScalar lowerHex dumps_int
  toDigits_cons)

/-- The code points of a text. -/
def codes (cs : List Char) : PyStr := cs.map Char.toNat

@[simp]
theorem codes_nil : codes [] = [] := rfl

@[simp]
theorem codes_cons (c : Char) (cs : List Char) : codes (c :: cs) = c.toNat :: codes cs := rfl

@[simp]
theorem codes_append (cs ds : List Char) : codes (cs ++ ds) = codes cs ++ codes ds := List.map_append

@[simp]
theorem length_codes (cs : List Char) : (codes cs).length = cs.length := List.length_map _

theorem strValue_codes (s : String) : strValue (codes s.toList) = .str s := by
  rw [strValue, show codes s.toList = PyStr.ofString s from rfl, PyStr.text?_ofString]

section Strings

variable {fuel : Nat} {rest : PyStr}

theorem toNat_ne {c d : Char} (h : c ≠ d) : c.toNat ≠ d.toNat := by
  intro heq
  apply h
  apply Char.ext
  exact UInt32.toNat_inj.mp heq

theorem scanString_plain {n : Nat} (hquote : n ≠ code '\"') (hslash : n ≠ code '\\') (hcontrol : ¬n < 32) :
    scanString (fuel + 1) (n :: rest) = consChar n (scanString fuel rest) := by
  rw [scanString.eq_def]
  dsimp only
  rw [if_neg hquote, if_neg hslash, if_neg hcontrol]

theorem scanString_simple {e n : Nat} (hu : e ≠ code 'u') (he : escape? e = some n) :
    scanString (fuel + 1) (code '\\' :: e :: rest) = consChar n (scanString fuel rest) := by
  rw [scanString.eq_def]
  dsimp only
  rw [if_neg (by decide), if_pos rfl, if_neg hu, he]

theorem scanString_unicode {a b c d n : Nat} (hn : hex4? a b c d = some n) (hhigh : PyStr.isHighSurrogate n = false) :
    scanString (fuel + 1) (code '\\' :: code 'u' :: a :: b :: c :: d :: rest) = consChar n (scanString fuel rest) := by
  rw [scanString.eq_def]
  dsimp only
  rw [if_neg (by decide), if_pos rfl, if_pos rfl, hn]
  dsimp only
  rw [hhigh, if_neg Bool.false_ne_true]

theorem hexValue?_lowerHex {n : Nat} (h : n < 16) : hexValue? (lowerHex n).toNat = some n := by
  have hall : ∀ n : Fin 16, hexValue? (lowerHex n).toNat = some n.val := by decide
  exact hall ⟨n, h⟩

/-- An escape stands for one character. -/
theorem scanString_escapeChar (c : Char) (fuel : Nat) (rest : PyStr) :
    scanString (fuel + 1) (codes (escapeChar c) ++ rest) = consChar c.toNat (scanString fuel rest) := by
  rw [escapeChar]
  split_ifs with hquote hslash hline hreturn htab hback hfeed hcontrol
  · subst hquote
    exact scanString_simple (by decide) (by decide)
  · subst hslash
    exact scanString_simple (by decide) (by decide)
  · subst hline
    exact scanString_simple (by decide) (by decide)
  · subst hreturn
    exact scanString_simple (by decide) (by decide)
  · subst htab
    exact scanString_simple (by decide) (by decide)
  · subst hback
    exact scanString_simple (by decide) (by decide)
  · subst hfeed
    exact scanString_simple (by decide) (by decide)
  · have hhex : hex4? 48 48 (lowerHex (c.toNat / 16)).toNat (lowerHex (c.toNat % 16)).toNat = some c.toNat := by
      rw [hex4?, hexValue?_lowerHex (by omega), hexValue?_lowerHex (Nat.mod_lt _ (by omega))]
      change some (4096 * 0 + 256 * 0 + 16 * (c.toNat / 16) + c.toNat % 16) = _
      rw [Option.some.injEq]
      omega
    refine scanString_unicode hhex ?_
    apply decide_eq_false
    omega
  · exact scanString_plain (toNat_ne hquote) (toNat_ne hslash) hcontrol

theorem scanString_flatMap (cs : List Char) (h : cs.length < fuel) :
    scanString fuel (codes (cs.flatMap escapeChar) ++ code '\"' :: rest) = some (codes cs, rest) := by
  induction cs generalizing fuel with
  | nil =>
    obtain ⟨fuel, rfl⟩ := Nat.exists_eq_add_of_lt h
    rfl
  | cons c cs ih =>
    obtain ⟨fuel, rfl⟩ : ∃ f, fuel = f + 1 := ⟨fuel - 1, by simp at h; omega⟩
    rw [List.flatMap_cons, codes_append, List.append_assoc, scanString_escapeChar, ih (by simpa using h)]
    rfl

theorem length_flatMap_escapeChar (cs : List Char) : cs.length ≤ (cs.flatMap escapeChar).length := by
  induction cs with
  | nil => exact le_rfl
  | cons c cs ih =>
    have hpos : 0 < (escapeChar c).length := by
      rw [escapeChar]
      split_ifs <;> exact Nat.succ_pos _
    rw [List.flatMap_cons, List.length_append, List.length_cons]
    omega

theorem scanQuoted_escaped (s : String) (rest : PyStr) :
    scanQuoted (codes (s.toList.flatMap escapeChar) ++ code '\"' :: rest) = .ok (codes s.toList, rest) := by
  have hlength := length_flatMap_escapeChar s.toList
  rw [scanQuoted, scanString_flatMap _ (by
    simp only [List.length_append, List.length_cons, length_codes]
    omega)]

end Strings

section Numbers

variable {p : Interpreter} {rest : PyStr}

/-- What may follow a number without running on. -/
def Ends (rest : PyStr) : Prop :=
  ∀ n ∈ rest.head?, isDigit n = false ∧ n ≠ code '.' ∧ n ≠ code 'e' ∧ n ≠ code 'E'

theorem ends_nil : Ends [] := by
  intro n hn
  cases hn

theorem ends_cons {n : Nat} (h : isDigit n = false ∧ n ≠ code '.' ∧ n ≠ code 'e' ∧ n ≠ code 'E') (rest : PyStr) :
    Ends (n :: rest) := by
  intro m hm
  obtain rfl := Option.some.inj hm
  exact h

theorem isDigit_toNat {c : Char} (h : c.isDigit = true) : isDigit c.toNat = true := by
  rw [Char.isDigit, Bool.and_eq_true, decide_eq_true_iff, decide_eq_true_iff, ge_iff_le, UInt32.le_iff_toNat_le,
    UInt32.le_iff_toNat_le] at h
  exact decide_eq_true h

theorem isDigit_toDigits {n m : Nat} (h : m ∈ codes (Nat.toDigits 10 n)) : isDigit m = true := by
  obtain ⟨c, hc, rfl⟩ := List.mem_map.mp h
  exact isDigit_toNat (Nat.isDigit_of_mem_toDigits (by omega) (by omega) hc)

theorem takeWhile_digits (n : Nat) (h : Ends rest) :
    (codes (Nat.toDigits 10 n) ++ rest).takeWhile isDigit = codes (Nat.toDigits 10 n) := by
  rw [List.takeWhile_append_of_pos fun m hm => isDigit_toDigits hm]
  cases rest with
  | nil => simp
  | cons m rest =>
    rw [List.takeWhile_cons, (h m rfl).1, if_neg Bool.false_ne_true, List.append_nil]

/-- A number above zero is written without a leading zero. -/
theorem toDigits_head {n : Nat} (h : 0 < n) : (Nat.toDigits 10 n).head? ≠ some '0' := by
  induction n using Nat.strong_induction_on with
  | _ n ih =>
    by_cases hsmall : n < 10
    · rw [Nat.toDigits_of_lt_base hsmall]
      interval_cases n <;> decide
    · rw [Nat.toDigits_of_base_le (by omega) (by omega), List.head?_append_of_ne_nil _ Nat.toDigits_ne_nil]
      exact ih (n / 10) (by omega) (by omega)

theorem whole_digits (n : Nat) (h : Ends rest) :
    whole (codes (Nat.toDigits 10 n) ++ rest) = codes (Nat.toDigits 10 n) := by
  rw [whole]
  cases n with
  | zero => rfl
  | succ n =>
    obtain ⟨c, cs, hcons, -⟩ := toDigits_cons (n + 1)
    have hhead := toDigits_head (Nat.succ_pos n)
    rw [Nat.succ_eq_add_one, hcons] at hhead
    rw [if_neg, takeWhile_digits _ h]
    rw [hcons]
    intro heq
    refine toNat_ne (d := '0') (fun hc => hhead (congrArg some hc)) ?_
    exact Option.some.inj heq

theorem ofDigits_foldl (cs : List Char) (n : Nat) :
    (codes cs).foldl (fun n d => 10 * n + (d - 48)) n = Nat.ofDigitChars 10 cs n := by
  induction cs generalizing n with
  | nil => rfl
  | cons c cs ih =>
    rw [codes_cons, List.foldl_cons, ih]
    rfl

theorem ofDigits_codes (n : Nat) : ofDigits (codes (Nat.toDigits 10 n)) = n := by
  rw [ofDigits, ofDigits_foldl, Nat.ofDigitChars_ten_toDigits]

theorem fraction_ends (h : Ends rest) : fraction rest = [] := by
  cases rest with
  | nil => rfl
  | cons n rest => exact if_neg fun hdot => (h n rfl).2.1 hdot.1

theorem exponent_ends (h : Ends rest) : exponent rest = [] := by
  cases rest with
  | nil => rfl
  | cons n rest => exact if_neg fun hexp => hexp.1.elim (h n rfl).2.2.1 (h n rfl).2.2.2

/-- The integers that `int` takes from a text. -/
def Short (n : Int) : Prop := (Nat.toDigits 10 n.natAbs).length ≤ maxStrDigits

theorem sign_digits (n : Nat) (rest : PyStr) :
    sign (codes (Nat.toDigits 10 n) ++ rest) = ([], codes (Nat.toDigits 10 n) ++ rest) := by
  obtain ⟨c, cs, hcons, hdigit⟩ := toDigits_cons n
  rw [hcons, codes_cons, List.cons_append, sign]
  refine if_neg (toNat_ne (d := '-') ?_)
  rintro rfl
  cases hdigit

theorem matchNumber_signed {m cs : PyStr} {n : Nat} (hsign : sign cs = (m, codes (Nat.toDigits 10 n) ++ rest))
    (hshort : (Nat.toDigits 10 n).length ≤ maxStrDigits) (h : Ends rest) :
    matchNumber p cs = .ok (.int (if m = [] then n else -n), rest) := by
  have hne : codes (Nat.toDigits 10 n) ≠ [] := by
    intro hnil
    exact Nat.toDigits_ne_nil (List.map_eq_nil_iff.mp hnil)
  rw [matchNumber, hsign]
  dsimp only
  rw [whole_digits n h, if_neg hne, List.drop_left, fraction_ends h, List.length_nil, List.drop_zero, exponent_ends h,
    if_neg (by simp), if_neg (by simpa using hshort), ofDigits_codes]
  rfl

theorem matchNumber_int {n : Int} (hshort : Short n) (h : Ends rest) :
    matchNumber p (codes (dumps (.int n)) ++ rest) = .ok (.int n, rest) := by
  rw [dumps_int]
  split
  · rename_i hn
    rw [matchNumber_signed (sign_digits _ rest) (by rwa [← Int.toNat_of_nonneg hn] at hshort) h, if_pos rfl,
      Int.toNat_of_nonneg hn]
  · rename_i hn
    have hneg : Short n = ((Nat.toDigits 10 (-n).toNat).length ≤ maxStrDigits) := by
      rw [Short, show n.natAbs = (-n).toNat by omega]
    rw [codes_cons, List.cons_append, matchNumber_signed (m := [code '-']) rfl (hneg ▸ hshort) h,
      if_neg (by simp), Int.toNat_of_nonneg (by omega), neg_neg]

theorem afterWord?_ne (word : String) {w c : Nat} {ws cs : PyStr} (hword : PyStr.ofString word = w :: ws) (h : w ≠ c) :
    afterWord? word (c :: cs) = none := by
  rw [afterWord?, hword, List.isPrefixOf_cons_cons, beq_eq_false_iff_ne.mpr h, Bool.false_and, if_neg Bool.false_ne_true]

/-- A text that starts below the letters is no word. -/
theorem scanScalar_number {c : Nat} {cs : PyStr} (hc : c < 58) (hminus : afterWord? "-Infinity" (c :: cs) = none) :
    scanScalar p (c :: cs) = matchNumber p (c :: cs) := by
  rw [scanScalar, afterWord?_ne "null" (w := 110) rfl (by omega),
    afterWord?_ne "true" (w := 116) rfl (by omega), afterWord?_ne "false" (w := 102) rfl (by omega),
    afterWord?_ne "NaN" (w := 78) rfl (by omega), afterWord?_ne "Infinity" (w := 73) rfl (by omega),
    hminus]

theorem toDigits_codes (n : Nat) : ∃ d ds, codes (Nat.toDigits 10 n) = d :: ds ∧ 48 ≤ d ∧ d < 58 := by
  obtain ⟨c, cs, hcons, hdigit⟩ := toDigits_cons n
  refine ⟨c.toNat, codes cs, by rw [hcons, codes_cons], ?_⟩
  have hrange := of_decide_eq_true (isDigit_toNat hdigit)
  omega

theorem scanScalar_int {n : Int} (hshort : Short n) (h : Ends rest) :
    scanScalar p (codes (dumps (.int n)) ++ rest) = .ok (.int n, rest) := by
  rw [← matchNumber_int hshort h, dumps_int]
  split
  · obtain ⟨d, ds, hcons, hlow, hhigh⟩ := toDigits_codes n.toNat
    rw [hcons, List.cons_append]
    exact scanScalar_number hhigh (afterWord?_ne _ (w := 45) rfl (by omega))
  · obtain ⟨d, ds, hcons, hlow, hhigh⟩ := toDigits_codes (-n).toNat
    rw [codes_cons, hcons, List.cons_append, List.cons_append]
    refine scanScalar_number (by decide) ?_
    rw [afterWord?, show PyStr.ofString "-Infinity" = 45 :: 73 :: PyStr.ofString "nfinity" from rfl,
      List.isPrefixOf_cons_cons, List.isPrefixOf_cons_cons, beq_eq_false_iff_ne.mpr (show 73 ≠ d by omega),
      Bool.false_and, Bool.and_false, if_neg Bool.false_ne_true]

end Numbers

section Values

variable {p : Interpreter} {hook : Hook} {exact : Int → Prop} {text : String → Prop} {depth limit : Nat} {v : Json}

/-- The hook builds the object that its pairs were read from. -/
def Rebuilds (hook : Hook) : Prop :=
  ∀ fields : List (String × Json), (fields.map Prod.fst).Nodup →
    hook (fields.map fun f => (codes f.1.toList, f.2)) = some (.obj fields)

/-- The scanner gives back a value and leaves what follows it. -/
def GivesBack (p : Interpreter) (hook : Hook) (limit : Nat) (v : Json) : Prop :=
  ∀ rest, Ends rest → scanOnce p hook limit (codes (dumps v) ++ rest) = .ok (v, rest)

/-- A value starts with an ASCII character that is neither white nor closing. -/
theorem dumps_start (h : Plain exact text depth v) :
    ∃ n cs, codes (dumps v) = n :: cs ∧ isWhitespace n = false ∧ n ≠ code ']' ∧ n < 128 := by
  cases v with
  | null => exact ⟨_, _, rfl, by decide, by decide, by decide⟩
  | bool b => cases b <;> exact ⟨_, _, rfl, by decide, by decide, by decide⟩
  | int n =>
    rw [dumps_int]
    split
    · obtain ⟨d, ds, hcons, hlow, hhigh⟩ := toDigits_codes n.toNat
      refine ⟨d, ds, hcons, ?_, ?_, by omega⟩
      · simp only [isWhitespace, Bool.or_eq_false_iff, beq_eq_false_iff_ne]
        omega
      · intro heq
        have hcode : code ']' = 93 := rfl
        omega
    · exact ⟨_, _, rfl, by decide, by decide, by decide⟩
  | float r => exact absurd h (by cases depth <;> exact id)
  | str s => exact ⟨_, _, rfl, by decide, by decide, by decide⟩
  | surrogates codePoints => exact absurd h (by cases depth <;> exact id)
  | arr items => exact ⟨_, _, by rw [dumps, List.cons_append, codes_cons], by decide, by decide, by decide⟩
  | obj fields => exact ⟨_, _, by rw [dumps, List.cons_append, codes_cons], by decide, by decide, by decide⟩

theorem scanOnce_array (cs : PyStr) : scanOnce p hook (limit + 1) (91 :: cs) = scanArray (scanOnce p hook limit) cs := by
  rw [scanOnce, List.head?_cons, if_neg (by decide), if_pos (by decide), List.tail_cons]

theorem scanOnce_object (cs : PyStr) :
    scanOnce p hook (limit + 1) (123 :: cs) = scanObject hook (scanOnce p hook limit) cs := by
  rw [scanOnce, List.head?_cons, if_pos (by decide), List.tail_cons]

theorem skipWhitespace_cons {n : Nat} (h : isWhitespace n = false) (cs : PyStr) : skipWhitespace (n :: cs) = n :: cs := by
  rw [skipWhitespace, List.dropWhile_cons, h, if_neg Bool.false_ne_true]

theorem skipWhitespace_dumps (h : Plain exact text depth v) (rest : PyStr) :
    skipWhitespace (codes (dumps v) ++ rest) = codes (dumps v) ++ rest := by
  obtain ⟨n, cs, hcons, hwhite, -⟩ := dumps_start h
  rw [hcons, List.cons_append, skipWhitespace_cons hwhite]

theorem next_cons {n : Nat} (h : isWhitespace n = false) (cs : PyStr) : next (n :: cs) = .ok (n, cs) := by
  rw [next, skipWhitespace_cons h]

theorem givesBack_int {n : Int} (h : Short n) : GivesBack p hook limit (.int n) := by
  intro rest hrest
  have hplain : Plain (fun _ => True) (fun _ => True) 0 (.int n) := trivial
  obtain ⟨d, ds, hcons, -, -⟩ := dumps_start hplain
  have hscalar := scanScalar_int (p := p) h hrest
  have hstart : 45 ≤ d ∧ d < 58 := by
    rw [dumps_int] at hcons
    split at hcons
    · obtain ⟨d', ds', hcons', hlow, hhigh⟩ := toDigits_codes n.toNat
      obtain ⟨rfl, -⟩ := List.cons.inj (hcons'.symm.trans hcons)
      omega
    · obtain ⟨rfl, -⟩ := List.cons.inj hcons
      decide
  rw [hcons, List.cons_append] at hscalar ⊢
  have hobject : (d :: (ds ++ rest)).head? ≠ some 123 := by
    intro heq
    have := Option.some.inj heq
    omega
  have harray : (d :: (ds ++ rest)).head? ≠ some 91 := by
    intro heq
    have := Option.some.inj heq
    omega
  rw [scanOnce_plain hobject harray, scanPlain, if_neg (by have hquote : code '\"' = 34 := rfl; omega)]
  exact hscalar

theorem givesBack_str (s : String) : GivesBack p hook limit (.str s) := by
  intro rest _
  have hcons : codes (dumps (.str s)) ++ rest =
      code '\"' :: (codes (s.toList.flatMap escapeChar) ++ code '\"' :: rest) := by
    rw [dumps, dumpsStr]
    simp only [codes_cons, codes_append, codes_nil, List.cons_append, List.append_assoc, List.nil_append]
    rfl
  rw [hcons, scanOnce_plain (by simp [code]) (by simp [code]), scanPlain, if_pos rfl, scanQuoted_escaped]
  change Except.ok (strValue _, rest) = _
  rw [strValue_codes]

theorem givesBack_scalar (h : Plain Short text depth v) (hscalar : isScalar v = true) : GivesBack p hook limit v := by
  cases v with
  | null =>
    intro rest _
    exact (scanOnce_plain (by simp [dumps]) (by simp [dumps])).trans rfl
  | bool b =>
    intro rest _
    cases b <;> exact (scanOnce_plain (by simp [dumps]) (by simp [dumps])).trans rfl
  | int n => exact givesBack_int (by cases depth <;> exact h)
  | float r => exact absurd h (by cases depth <;> exact id)
  | str s => exact givesBack_str s
  | surrogates codePoints => exact absurd h (by cases depth <;> exact id)
  | arr items => cases hscalar
  | obj fields => cases hscalar

section Steps

variable {scan : PyStr → Except LoadsError (Json × PyStr)} {fuel : Nat} {cs rest rest₁ rest₂ : PyStr} {items : List Json}

theorem scanItems_next (hvalue : scan cs = .ok (v, rest₁)) (hcomma : next rest₁ = .ok (44, rest₂)) :
    scanItems scan (fuel + 1) cs = (scanItems scan fuel (skipWhitespace rest₂)).map fun r => (v :: r.1, r.2) := by
  rw [scanItems, hvalue]
  change (next rest₁ >>= _) = _
  rw [hcomma]
  change (scanItems scan fuel (skipWhitespace rest₂) >>= _) = _
  cases scanItems scan fuel (skipWhitespace rest₂) <;> rfl

theorem scanItems_last (hvalue : scan cs = .ok (v, rest₁)) (hbracket : next rest₁ = .ok (93, rest₂)) :
    scanItems scan (fuel + 1) cs = .ok ([v], rest₂) := by
  rw [scanItems, hvalue]
  change (next rest₁ >>= _) = _
  rw [hbracket]
  rfl

theorem scanArray_items {n : Nat} (hfirst : next cs = .ok (n, rest)) (hn : n ≠ code ']')
    (hitems : scanItems scan (rest.length + 1) (n :: rest) = .ok (items, rest₁)) :
    scanArray scan cs = .ok (.arr items, rest₁) := by
  rw [scanArray, hfirst]
  change (if n = code ']' then _ else scanItems scan (rest.length + 1) (n :: rest) >>= _) = _
  rw [if_neg hn, hitems]
  rfl

end Steps

theorem dumpsItems_start (items : List Json) (h : Plain exact text depth v) :
    ∃ n cs, codes (dumpsItems (v :: items)) = n :: cs ∧ isWhitespace n = false ∧ n ≠ code ']' := by
  obtain ⟨n, cs, hcons, hwhite, hn, -⟩ := dumps_start h
  cases items with
  | nil => exact ⟨n, cs, by rw [dumpsItems, hcons], hwhite, hn⟩
  | cons w items => exact ⟨n, _, by rw [dumpsItems, codes_append, hcons, List.cons_append], hwhite, hn⟩

theorem length_dumpsItems (items : List Json) (hplain : ∀ v ∈ items, Plain exact text depth v) :
    items.length ≤ (codes (dumpsItems items)).length := by
  induction items with
  | nil => exact le_rfl
  | cons v vs ih =>
    obtain ⟨n, cs, hcons, -⟩ := dumps_start (hplain v List.mem_cons_self)
    have hrest := ih fun u hu => hplain u (List.mem_cons_of_mem _ hu)
    cases vs with
    | nil =>
      rw [dumpsItems, hcons]
      exact Nat.succ_le_succ (Nat.zero_le _)
    | cons w vs =>
      rw [dumpsItems, codes_append, hcons, codes_cons]
      simp only [List.length_append, List.length_cons] at hrest ⊢
      omega

theorem scanItems_dumpsItems (items : List Json) (hne : items ≠ []) (hplain : ∀ v ∈ items, Plain exact text depth v)
    (h : ∀ v ∈ items, GivesBack p hook limit v) (fuel : Nat) (rest : PyStr) (hfuel : items.length ≤ fuel) :
    scanItems (scanOnce p hook limit) fuel (codes (dumpsItems items) ++ code ']' :: rest) = .ok (items, rest) := by
  induction items generalizing fuel with
  | nil => exact absurd rfl hne
  | cons v vs ih =>
    obtain ⟨fuel, rfl⟩ : ∃ f, fuel = f + 1 := ⟨fuel - 1, by simp at hfuel; omega⟩
    have hv := h v List.mem_cons_self
    cases vs with
    | nil =>
      rw [dumpsItems]
      exact scanItems_last (hv _ (ends_cons (by decide) rest)) rfl
    | cons w vs =>
      have hrest := ih (by simp) (fun u hu => hplain u (List.mem_cons_of_mem _ hu))
        (fun u hu => h u (List.mem_cons_of_mem _ hu)) fuel (by simpa using hfuel)
      obtain ⟨n, cs, hcons, hwhite, -⟩ := dumpsItems_start vs (hplain w (by simp))
      rw [hcons, List.cons_append] at hrest
      rw [dumpsItems, codes_append, codes_cons, hcons, List.append_assoc, List.cons_append, List.cons_append,
        scanItems_next (hv _ (ends_cons (by decide) _)) rfl, skipWhitespace_cons hwhite, hrest]
      rfl

theorem givesBack_arr {items : List Json} (hplain : ∀ v ∈ items, Plain exact text depth v)
    (h : ∀ v ∈ items, GivesBack p hook limit v) : GivesBack p hook (limit + 1) (.arr items) := by
  intro rest _
  have hscan : codes (dumps (.arr items)) ++ rest = 91 :: (codes (dumpsItems items) ++ code ']' :: rest) := by
    rw [dumps]
    simp only [codes_cons, codes_append, codes_nil, List.cons_append, List.append_assoc, List.nil_append]
    rfl
  rw [hscan, scanOnce_array]
  cases items with
  | nil =>
    rw [dumpsItems]
    rfl
  | cons v vs =>
    obtain ⟨n, cs, hcons, hwhite, hn⟩ := dumpsItems_start vs (hplain v List.mem_cons_self)
    have hlength := length_dumpsItems (v :: vs) hplain
    have hitems := scanItems_dumpsItems (v :: vs) (by simp) hplain h ((cs ++ code ']' :: rest).length + 1) rest (by
      rw [hcons] at hlength
      simp only [List.length_append, List.length_cons] at hlength ⊢
      omega)
    rw [hcons, List.cons_append] at hitems ⊢
    exact scanArray_items (next_cons hwhite _) hn hitems

theorem scanKey_dumpsStr (k : String) (rest : PyStr) :
    scanKey (codes (dumpsStr k) ++ code ':' :: rest) = .ok (codes k.toList, skipWhitespace rest) := by
  have hcons : codes (dumpsStr k) ++ code ':' :: rest =
      code '\"' :: (codes (k.toList.flatMap escapeChar) ++ code '\"' :: code ':' :: rest) := by
    rw [dumpsStr]
    simp only [codes_cons, codes_append, codes_nil, List.cons_append, List.append_assoc, List.nil_append]
    rfl
  rw [hcons, scanKey, if_neg (by simp)]
  change (scanQuoted _ >>= _) = _
  rw [scanQuoted_escaped]
  rfl

theorem dumpsFields_start (f : String × Json) (fields : List (String × Json)) :
    ∃ cs, codes (dumpsFields (f :: fields)) = 34 :: cs := by
  obtain ⟨k, v⟩ := f
  cases fields with
  | nil => exact ⟨_, by rw [dumpsFields, dumpsStr, List.cons_append, List.cons_append, codes_cons]; rfl⟩
  | cons g fields =>
    exact ⟨_, by rw [dumpsFields, dumpsStr, List.cons_append, List.cons_append, List.cons_append, codes_cons]; rfl⟩

theorem length_dumpsFields (fields : List (String × Json)) : fields.length ≤ (codes (dumpsFields fields)).length := by
  induction fields with
  | nil => exact le_rfl
  | cons f fs ih =>
    obtain ⟨k, v⟩ := f
    cases fs with
    | nil => simp [dumpsFields, dumpsStr]
    | cons g fs =>
      rw [dumpsFields]
      simp only [codes_append, codes_cons, List.length_append, List.length_cons] at ih ⊢
      omega

theorem scanMembers_dumpsFields (fields : List (String × Json)) (hne : fields ≠ [])
    (hplain : ∀ f ∈ fields, Plain exact text depth f.2) (h : ∀ f ∈ fields, GivesBack p hook limit f.2) (fuel : Nat)
    (rest : PyStr) (hfuel : fields.length ≤ fuel) :
    scanMembers (scanOnce p hook limit) fuel (codes (dumpsFields fields) ++ code '\x7d' :: rest) =
      .ok (fields.map fun f => (codes f.1.toList, f.2), rest) := by
  induction fields generalizing fuel with
  | nil => exact absurd rfl hne
  | cons f fs ih =>
    obtain ⟨fuel, rfl⟩ : ∃ f, fuel = f + 1 := ⟨fuel - 1, by simp at hfuel; omega⟩
    obtain ⟨k, v⟩ := f
    have hv : GivesBack p hook limit v := h (k, v) List.mem_cons_self
    have hwhite := skipWhitespace_dumps (hplain (k, v) List.mem_cons_self)
    have hkey : ∀ rest, scanKey (codes (dumpsStr k) ++ code ':' :: (codes (dumps v) ++ rest)) =
        .ok (codes k.toList, codes (dumps v) ++ rest) := by
      intro rest
      rw [scanKey_dumpsStr, hwhite]
    cases fs with
    | nil =>
      rw [dumpsFields]
      simp only [codes_cons, codes_append, List.append_assoc, List.cons_append]
      exact scanMembers_last (hkey _) (hv _ (ends_cons (by decide) rest)) rfl
    | cons g fs =>
      have hrest := ih (by simp) (fun u hu => hplain u (List.mem_cons_of_mem _ hu))
        (fun u hu => h u (List.mem_cons_of_mem _ hu)) fuel (by simpa using hfuel)
      obtain ⟨cs, hcons⟩ := dumpsFields_start g fs
      rw [hcons, List.cons_append] at hrest
      rw [dumpsFields]
      simp only [codes_cons, codes_append, List.append_assoc, List.cons_append]
      rw [hcons, List.cons_append]
      refine (scanMembers_next (hkey _) (hv _ (ends_cons (by decide) _)) rfl).trans ?_
      rw [skipWhitespace_cons (by decide), hrest]
      rfl

theorem givesBack_obj (hhook : Rebuilds hook) {fields : List (String × Json)} (hkeys : (fields.map Prod.fst).Nodup)
    (hplain : ∀ f ∈ fields, Plain exact text depth f.2) (h : ∀ f ∈ fields, GivesBack p hook limit f.2) :
    GivesBack p hook (limit + 1) (.obj fields) := by
  intro rest _
  have hscan : codes (dumps (.obj fields)) ++ rest = 123 :: (codes (dumpsFields fields) ++ code '\x7d' :: rest) := by
    rw [dumps]
    simp only [codes_cons, codes_append, codes_nil, List.cons_append, List.append_assoc, List.nil_append]
    rfl
  have hbuilt := hhook fields hkeys
  rw [hscan, scanOnce_object]
  cases fields with
  | nil =>
    rw [dumpsFields]
    change (applyHook hook [] >>= _) = _
    rw [applyHook, show hook [] = _ from hbuilt]
    rfl
  | cons f fs =>
    obtain ⟨cs, hcons⟩ := dumpsFields_start f fs
    have hlength := length_dumpsFields (f :: fs)
    have hmembers := scanMembers_dumpsFields (f :: fs) (by simp) hplain h ((cs ++ code '\x7d' :: rest).length + 1) rest (by
      rw [hcons] at hlength
      simp only [List.length_append, List.length_cons] at hlength ⊢
      omega)
    rw [hcons, List.cons_append] at hmembers ⊢
    rw [scanObject_members (next_cons (by decide) _) hmembers, applyHook, hbuilt]
    rfl

/-- The induction is on the nesting of the value. -/
theorem givesBack_dumps (hhook : Rebuilds hook) (h : Plain Short text depth v) (hlimit : depth ≤ limit) :
    GivesBack p hook limit v := by
  induction depth generalizing v limit with
  | zero =>
    cases v with
    | arr _ => exact absurd h id
    | obj _ => exact absurd h id
    | _ => exact givesBack_scalar h rfl
  | succ depth ih =>
    obtain ⟨limit, rfl⟩ := Nat.exists_eq_add_of_lt hlimit
    rw [show depth + limit + 1 = (depth + limit) + 1 from rfl]
    cases v with
    | arr items => exact givesBack_arr h fun v hv => ih (h v hv) (Nat.le_add_right _ _)
    | obj fields =>
      exact givesBack_obj hhook h.1 (fun f hf => (h.2 f hf).2) fun f hf => ih (h.2 f hf).2 (Nat.le_add_right _ _)
    | _ => exact givesBack_scalar h rfl

end Values

end Loads

/-- What is asked of the integers of a value is asked of each of them. -/
theorem Json.Plain.ints {exact exact' : Int → Prop} {text : String → Prop} {depth : Nat} {v : Json}
    (h : Plain exact text depth v) (himp : ∀ n, exact n → exact' n) : Plain exact' text depth v := by
  induction depth generalizing v with
  | zero =>
    cases v with
    | int n => exact himp n h
    | _ => exact h
  | succ depth ih =>
    cases v with
    | int n => exact himp n h
    | arr items => exact fun v hv => ih (h v hv)
    | obj fields => exact ⟨h.1, fun f hf => ⟨(h.2 f hf).1, ih (h.2 f hf).2⟩⟩
    | _ => exact h

open Loads

/-- What is relied on of a JSON printer: it writes as `json.dumps` does, for the integers it writes exactly. -/
def Prints (exact : Int → Prop) (print : Json → Option (List Char)) : Prop :=
  ∀ depth ≤ 8, ∀ v, Json.Plain exact Json.NulFree depth v → print v = some (Json.dumps v)

/-- `json.loads` gives back what `json.dumps` wrote. -/
theorem loads_dumps {p : Interpreter} {hook : Hook} {text : String → Prop} {depth : Nat} {v : Json}
    (hhook : Rebuilds hook) (h : Json.Plain Short text depth v) (hdepth : depth ≤ p.cRecursionLimit) :
    loads p hook (codes (Json.dumps v)) = .ok v := by
  have hback := givesBack_dumps (p := p) hhook h hdepth [] ends_nil
  have hwhite := skipWhitespace_dumps h []
  obtain ⟨n, cs, hcons, -, -, hascii⟩ := dumps_start h
  have hmark : (codes (Json.dumps v)).head? ≠ some 0xFEFF := by
    rw [hcons, List.head?_cons]
    intro heq
    have := Option.some.inj heq
    omega
  rw [List.append_nil] at hback hwhite
  rw [loads, if_neg hmark, decode, hwhite, hback]
  rfl

end RealtimeVoice.Base
