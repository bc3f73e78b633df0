import RealtimeVoice.Base.Json

namespace RealtimeVoice.Base.Json

variable {exact : Int → Prop} {text : String → Prop} {depth : Nat}

/-- A value without floats and lone surrogates, with distinct keys and bounded nesting, whose integers
and strings are of a given kind. -/
def Plain (exact : Int → Prop) (text : String → Prop) : Nat → Json → Prop
  | _, .null => True
  | _, .bool _ => True
  | _, .int n => exact n
  | _, .float _ => False
  | _, .str s => text s
  | _, .surrogates _ => False
  | 0, .arr _ => False
  | 0, .obj _ => False
  | depth + 1, .arr items => ∀ v ∈ items, Plain exact text depth v
  | depth + 1, .obj fields =>
    (fields.map Prod.fst).Nodup ∧ ∀ f ∈ fields, text f.1 ∧ Plain exact text depth f.2

def NulFree (s : String) : Prop := Char.ofNat 0 ∉ s.toList

instance (s : String) : Decidable (NulFree s) := inferInstanceAs (Decidable (_ ∉ _))

/-- What is relied on of a JSON reader: it gives back what was written, for the
integers it represents exactly. -/
def Reads (exact : Int → Prop) (read : List Char → Option Json) : Prop :=
  ∀ depth ≤ 8, ∀ v, Plain exact NulFree depth v → read (dumps v) = some v

def hexValue? (c : Char) : Option Nat :=
  if c.isDigit then some (c.toNat - 48)
  else if 97 ≤ c.toNat ∧ c.toNat ≤ 102 then some (c.toNat - 87)
  else none

def simpleEscape? (c : Char) : Option Char :=
  if c = '\"' ∨ c = '\\' ∨ c = '/' then some c
  else if c = 'n' then some '\n'
  else if c = 'r' then some '\r'
  else if c = 't' then some '\t'
  else if c = 'b' then some (Char.ofNat 8)
  else if c = 'f' then some (Char.ofNat 12)
  else none

/-- The characters of a string up to its closing quote. -/
def readChars : List Char → Option (List Char × List Char)
  | [] => none
  | c :: rest =>
    if c = '\"' then some ([], rest)
    else if c = '\\' then
      match rest with
      | 'u' :: a :: b :: d :: e :: rest => do
        let code := 4096 * (← hexValue? a) + 256 * (← hexValue? b) + 16 * (← hexValue? d) + (← hexValue? e)
        let (cs, rest) ← readChars rest
        some (Char.ofNat code :: cs, rest)
      | d :: rest => do
        let d ← simpleEscape? d
        let (cs, rest) ← readChars rest
        some (d :: cs, rest)
      | [] => none
    else if c.toNat < 32 then none
    else do
      let (cs, rest) ← readChars rest
      some (c :: cs, rest)

def readNat (cs : List Char) : Option (Nat × List Char) :=
  if cs.takeWhile Char.isDigit = [] then none
  else some (Nat.ofDigitChars 10 (cs.takeWhile Char.isDigit) 0, cs.dropWhile Char.isDigit)

mutual

def readValue : Nat → List Char → Option (Json × List Char)
  | 0, _ => none
  | fuel + 1, cs =>
    match cs with
    | 'n' :: 'u' :: 'l' :: 'l' :: rest => some (.null, rest)
    | 't' :: 'r' :: 'u' :: 'e' :: rest => some (.bool true, rest)
    | 'f' :: 'a' :: 'l' :: 's' :: 'e' :: rest => some (.bool false, rest)
    | '\"' :: rest => (readChars rest).map fun d => (.str (String.ofList d.1), d.2)
    | '[' :: ']' :: rest => some (.arr [], rest)
    | '[' :: rest => (readItems fuel rest).map fun d => (.arr d.1, d.2)
    | '\x7b' :: '\x7d' :: rest => some (.obj [], rest)
    | '\x7b' :: rest => (readFields fuel rest).map fun d => (.obj d.1, d.2)
    | '-' :: rest => (readNat rest).map fun d => (.int (-d.1), d.2)
    | rest => (readNat rest).map fun d => (.int d.1, d.2)

def readItems : Nat → List Char → Option (List Json × List Char)
  | 0, _ => none
  | fuel + 1, cs =>
    match readValue fuel cs with
    | some (v, ',' :: rest) => (readItems fuel rest).map fun d => (v :: d.1, d.2)
    | some (v, ']' :: rest) => some ([v], rest)
    | _ => none

def readFields : Nat → List Char → Option (List (String × Json) × List Char)
  | 0, _ => none
  | fuel + 1, cs =>
    match cs with
    | '\"' :: cs =>
      match readChars cs with
      | some (k, ':' :: cs) =>
        match readValue fuel cs with
        | some (v, ',' :: rest) => (readFields fuel rest).map fun d => ((String.ofList k, v) :: d.1, d.2)
        | some (v, '\x7d' :: rest) => some ([(String.ofList k, v)], rest)
        | _ => none
      | _ => none
    | _ => none

end

def read (cs : List Char) : Option Json :=
  match readValue cs.length cs with
  | some (v, []) => some v
  | _ => none

section

-- the equations of the readers are derived once, before the proofs below that rewrite with them
attribute [local simp] readChars readValue readItems readFields dumps dumpsItems dumpsFields

end

theorem readChars_quote (rest : List Char) : readChars ('\"' :: rest) = some ([], rest) := by
  rw [readChars.eq_def]
  simp

theorem readChars_plain {c : Char} (hquote : c ≠ '\"') (hslash : c ≠ '\\') (hcontrol : ¬c.toNat < 32)
    (rest : List Char) : readChars (c :: rest) = (readChars rest).map fun d => (c :: d.1, d.2) := by
  rw [readChars.eq_def]
  simp only [if_neg hquote, if_neg hslash, if_neg hcontrol]
  cases readChars rest <;> rfl

theorem readChars_simple {d e : Char} (hu : d ≠ 'u') (hd : simpleEscape? d = some e) (rest : List Char) :
    readChars ('\\' :: d :: rest) = (readChars rest).map fun p => (e :: p.1, p.2) := by
  rw [readChars.eq_3 _ _ _ (fun _ _ _ _ _ h => absurd h hu), if_neg (by decide), if_pos rfl, hd]
  cases readChars rest <;> rfl

theorem readChars_unicode {a b : Char} {m n : Nat} (ha : hexValue? a = some m) (hb : hexValue? b = some n)
    (rest : List Char) : readChars ('\\' :: 'u' :: '0' :: '0' :: a :: b :: rest) =
      (readChars rest).map fun p => (Char.ofNat (16 * m + n) :: p.1, p.2) := by
  have hzero : hexValue? '0' = some 0 := rfl
  rw [readChars.eq_2, if_neg (by decide), if_pos rfl, hzero, ha, hb]
  cases readChars rest with
  | none => rfl
  | some d => simp

theorem hexValue?_lowerHex {n : Nat} (h : n < 16) : hexValue? (lowerHex n) = some n := by
  revert n
  decide

theorem readChars_escapeChar (c : Char) (rest : List Char) :
    readChars (escapeChar c ++ rest) = (readChars rest).map fun d => (c :: d.1, d.2) := by
  rw [escapeChar]
  split_ifs with hquote hslash hn hr ht hb hf hcontrol
  · rw [hquote]
    exact readChars_simple (by decide) rfl rest
  · rw [hslash]
    exact readChars_simple (by decide) rfl rest
  · rw [hn]
    exact readChars_simple (by decide) rfl rest
  · rw [hr]
    exact readChars_simple (by decide) rfl rest
  · rw [ht]
    exact readChars_simple (by decide) rfl rest
  · rw [hb]
    exact readChars_simple (by decide) rfl rest
  · rw [hf]
    exact readChars_simple (by decide) rfl rest
  · have hcode : Char.ofNat (16 * (c.toNat / 16) + c.toNat % 16) = c := by
      rw [Nat.div_add_mod, Char.ofNat_toNat]
    refine (readChars_unicode (hexValue?_lowerHex ?_) (hexValue?_lowerHex ?_) rest).trans ?_
    · omega
    · omega
    · rw [hcode]
  · exact readChars_plain hquote hslash hcontrol rest

theorem readChars_flatMap (cs rest : List Char) :
    readChars (cs.flatMap escapeChar ++ '\"' :: rest) = some (cs, rest) := by
  induction cs with
  | nil => exact readChars_quote rest
  | cons c cs ih => rw [List.flatMap_cons, List.append_assoc, readChars_escapeChar, ih, Option.map_some]

/-- What may follow a value: the number before it must not run on. -/
def Stops (rest : List Char) : Prop := rest.takeWhile Char.isDigit = [] ∧ rest.dropWhile Char.isDigit = rest

theorem stops_nil : Stops [] := ⟨rfl, rfl⟩

theorem stops_cons {c : Char} (h : c.isDigit = false) (rest : List Char) : Stops (c :: rest) := by
  refine ⟨?_, ?_⟩
  · rw [List.takeWhile_cons, h, if_neg (by simp)]
  · rw [List.dropWhile_cons, h, if_neg (by simp)]

theorem readNat_toDigits (n : Nat) {rest : List Char} (h : Stops rest) :
    readNat (Nat.toDigits 10 n ++ rest) = some (n, rest) := by
  have hdigits : ∀ c ∈ Nat.toDigits 10 n, c.isDigit = true := fun c hc =>
    Nat.isDigit_of_mem_toDigits (by omega) (by omega) hc
  have htake : (Nat.toDigits 10 n ++ rest).takeWhile Char.isDigit = Nat.toDigits 10 n := by
    rw [List.takeWhile_append_of_pos hdigits, h.1, List.append_nil]
  have hdrop : (Nat.toDigits 10 n ++ rest).dropWhile Char.isDigit = rest := by
    rw [List.dropWhile_append_of_pos hdigits, h.2]
  rw [readNat, htake, hdrop, if_neg Nat.toDigits_ne_nil, Nat.ofDigitChars_ten_toDigits]

theorem dumps_int (n : Int) :
    dumps (.int n) = if 0 ≤ n then Nat.toDigits 10 n.toNat else '-' :: Nat.toDigits 10 (-n).toNat := by
  rw [dumps, Int.toString_eq_repr, Int.repr_eq_if]
  split
  · rw [Nat.toList_repr]
  · rw [String.toList_append, Nat.toList_repr]
    rfl

theorem toDigits_cons (n : Nat) : ∃ c cs, Nat.toDigits 10 n = c :: cs ∧ c.isDigit = true := by
  obtain ⟨c, cs, h⟩ := List.exists_cons_of_ne_nil (Nat.toDigits_ne_nil (b := 10) (n := n))
  have hmem : c ∈ Nat.toDigits 10 n := by
    rw [h]
    exact List.mem_cons_self
  exact ⟨c, cs, h, Nat.isDigit_of_mem_toDigits (by omega) (by omega) hmem⟩

/-- A value starts with a character that closes nothing. -/
theorem dumps_cons {v : Json} (h : Plain exact text depth v) : ∃ c cs, dumps v = c :: cs ∧ c ≠ ']' := by
  cases v with
  | null => exact ⟨'n', _, rfl, by decide⟩
  | bool b =>
    cases b with
    | true => exact ⟨'t', _, rfl, by decide⟩
    | false => exact ⟨'f', _, rfl, by decide⟩
  | int n =>
    rw [dumps_int]
    split
    · obtain ⟨c, cs, heq, hdigit⟩ := toDigits_cons n.toNat
      refine ⟨c, cs, heq, ?_⟩
      rintro rfl
      exact absurd hdigit (by decide)
    · exact ⟨'-', _, rfl, by decide⟩
  | float r => exact absurd h (by cases depth <;> exact id)
  | str s => exact ⟨'\"', _, rfl, by decide⟩
  | surrogates codePoints => exact absurd h (by cases depth <;> exact id)
  | arr items => exact ⟨'[', _, by rw [dumps]; rfl, by decide⟩
  | obj fields => exact ⟨'\x7b', _, by rw [dumps]; rfl, by decide⟩

theorem readValue_digit {c : Char} (h : c.isDigit = true) (fuel : Nat) (cs : List Char) :
    readValue (fuel + 1) (c :: cs) = (readNat (c :: cs)).map fun d => (.int d.1, d.2) := by
  have hne : ∀ d : Char, d.isDigit = false → c ≠ d := by
    rintro d hd rfl
    rw [h] at hd
    cases hd
  have hn := hne 'n' rfl
  have ht := hne 't' rfl
  have hf := hne 'f' rfl
  have hquote := hne '\"' rfl
  have hbracket := hne '[' rfl
  have hbrace := hne '\x7b' rfl
  have hminus := hne '-' rfl
  rw [readValue]
  all_goals simp_all

theorem readValue_array (fuel : Nat) {c : Char} (hc : c ≠ ']') (cs : List Char) :
    readValue (fuel + 1) ('[' :: c :: cs) = (readItems fuel (c :: cs)).map fun d => (.arr d.1, d.2) := by
  rw [readValue]
  intro rest heq
  exact hc (List.cons.inj heq).1

theorem readValue_object (fuel : Nat) (cs : List Char) :
    readValue (fuel + 1) ('\x7b' :: '\"' :: cs) =
      (readFields fuel ('\"' :: cs)).map fun d => (.obj d.1, d.2) := by
  rw [readValue]
  intro rest heq
  exact absurd (List.cons.inj heq).1 (by decide)

/-- The reader gives back `v` and leaves what follows it. -/
def GivesBack (v : Json) : Prop :=
  ∀ fuel rest, (dumps v).length ≤ fuel → Stops rest → readValue fuel (dumps v ++ rest) = some (v, rest)

theorem readItems_dumpsItems (items : List Json) (hne : items ≠ [])
    (hplain : ∀ v ∈ items, Plain exact text depth v) (h : ∀ v ∈ items, GivesBack v) (fuel : Nat) (rest : List Char)
    (hfuel : (dumpsItems items).length + 1 ≤ fuel) :
    readItems fuel (dumpsItems items ++ ']' :: rest) = some (items, rest) := by
  induction items generalizing fuel with
  | nil => exact absurd rfl hne
  | cons v vs ih =>
    obtain ⟨fuel, rfl⟩ : ∃ f, fuel = f + 1 := ⟨fuel - 1, by omega⟩
    have hv := h v List.mem_cons_self
    cases vs with
    | nil =>
      rw [dumpsItems] at hfuel ⊢
      rw [readItems, hv fuel _ (by omega) (stops_cons rfl rest)]
      rfl
    | cons w vs =>
      rw [dumpsItems] at hfuel ⊢
      obtain ⟨c, cs, hcons, -⟩ := dumps_cons (hplain v List.mem_cons_self)
      have hpos : 0 < (dumps v).length := by simp [hcons]
      simp only [List.length_append, List.length_cons] at hfuel
      rw [List.append_assoc, List.cons_append, readItems, hv fuel _ (by omega) (stops_cons rfl _)]
      change (readItems fuel _).map _ = _
      rw [ih (by simp) (fun u hu => hplain u (List.mem_cons_of_mem _ hu))
        (fun u hu => h u (List.mem_cons_of_mem _ hu)) fuel (by omega)]
      rfl

/-- The part of `readFields` after the key. -/
def readMember (fuel : Nat) (k : String) (cs : List Char) : Option (List (String × Json) × List Char) :=
  match readValue fuel cs with
  | some (v, ',' :: rest) => (readFields fuel rest).map fun d => ((k, v) :: d.1, d.2)
  | some (v, '\x7d' :: rest) => some ([(k, v)], rest)
  | _ => none

theorem readFields_key (fuel : Nat) (k : String) (cs : List Char) :
    readFields (fuel + 1) (dumpsStr k ++ ':' :: cs) = readMember fuel k cs := by
  simp only [dumpsStr, List.append_assoc, List.cons_append, List.nil_append]
  rw [readFields, readChars_flatMap]
  change readMember fuel (String.ofList k.toList) cs = _
  rw [String.ofList_toList]

theorem readFields_dumpsFields (fields : List (String × Json)) (hne : fields ≠ [])
    (h : ∀ f ∈ fields, GivesBack f.2) (fuel : Nat) (rest : List Char)
    (hfuel : (dumpsFields fields).length + 1 ≤ fuel) :
    readFields fuel (dumpsFields fields ++ '\x7d' :: rest) = some (fields, rest) := by
  induction fields generalizing fuel with
  | nil => exact absurd rfl hne
  | cons f fs ih =>
    obtain ⟨fuel, rfl⟩ : ∃ f, fuel = f + 1 := ⟨fuel - 1, by omega⟩
    obtain ⟨k, v⟩ := f
    have hv : GivesBack v := h (k, v) List.mem_cons_self
    cases fs with
    | nil =>
      rw [dumpsFields] at hfuel ⊢
      simp only [List.length_append, List.length_cons] at hfuel
      rw [List.append_assoc, List.cons_append, readFields_key, readMember, hv fuel _ (by omega) (stops_cons rfl _)]
      rfl
    | cons g fs =>
      rw [dumpsFields] at hfuel ⊢
      simp only [List.length_append, List.length_cons] at hfuel
      simp only [List.append_assoc, List.cons_append]
      rw [readFields_key, readMember, hv fuel _ (by omega) (stops_cons rfl _)]
      change (readFields fuel _).map _ = _
      rw [ih (by simp) (fun u hu => h u (List.mem_cons_of_mem _ hu)) fuel (by omega), Option.map_some]

theorem readValue_int (n : Int) : GivesBack (.int n) := by
  intro fuel rest hfuel hrest
  rw [dumps_int] at hfuel ⊢
  split at hfuel
  · rename_i hn
    obtain ⟨c, cs, heq, hdigit⟩ := toDigits_cons n.toNat
    obtain ⟨fuel, rfl⟩ : ∃ f, fuel = f + 1 := ⟨fuel - 1, by simp [heq] at hfuel; omega⟩
    rw [if_pos hn, heq, List.cons_append, readValue_digit hdigit, ← List.cons_append, ← heq,
      readNat_toDigits _ hrest, Option.map_some, Int.toNat_of_nonneg hn]
  · rename_i hn
    obtain ⟨fuel, rfl⟩ : ∃ f, fuel = f + 1 := ⟨fuel - 1, by simp at hfuel; omega⟩
    rw [if_neg hn, List.cons_append, readValue, readNat_toDigits _ hrest, Option.map_some,
      Int.toNat_of_nonneg (by omega), neg_neg]

theorem readValue_str (s : String) : GivesBack (.str s) := by
  intro fuel rest hfuel _
  rw [dumps, dumpsStr] at hfuel ⊢
  obtain ⟨fuel, rfl⟩ : ∃ f, fuel = f + 1 := ⟨fuel - 1, by simp at hfuel; omega⟩
  rw [List.cons_append, List.cons_append, List.append_assoc, readValue]
  change (readChars (_ ++ '\"' :: rest)).map _ = _
  rw [readChars_flatMap, Option.map_some, String.ofList_toList]

def isScalar : Json → Bool
  | .arr _ => false
  | .obj _ => false
  | _ => true

theorem readValue_scalar {v : Json} (h : Plain exact text depth v) (hscalar : isScalar v = true) : GivesBack v := by
  cases v with
  | null =>
    intro fuel rest hfuel _
    obtain ⟨fuel, rfl⟩ : ∃ f, fuel = f + 1 := ⟨fuel - 1, by simp [dumps] at hfuel; omega⟩
    rfl
  | bool b =>
    intro fuel rest hfuel _
    obtain ⟨fuel, rfl⟩ : ∃ f, fuel = f + 1 := ⟨fuel - 1, by cases b <;> simp [dumps] at hfuel <;> omega⟩
    cases b <;> rfl
  | int n => exact readValue_int n
  | float r => exact absurd h (by cases depth <;> exact id)
  | str s => exact readValue_str s
  | surrogates codePoints => exact absurd h (by cases depth <;> exact id)
  | arr items => cases hscalar
  | obj fields => cases hscalar

theorem readValue_arr {items : List Json}
    (hplain : ∀ v ∈ items, Plain exact text depth v) (h : ∀ v ∈ items, GivesBack v) : GivesBack (.arr items) := by
  intro fuel rest hfuel _
  rw [dumps] at hfuel ⊢
  obtain ⟨fuel, rfl⟩ : ∃ f, fuel = f + 1 := ⟨fuel - 1, by simp at hfuel; omega⟩
  cases items with
  | nil =>
    rw [dumpsItems]
    rfl
  | cons v vs =>
    have hcons : ∃ c cs, dumpsItems (v :: vs) = c :: cs ∧ c ≠ ']' := by
      obtain ⟨c, cs, hv, hc⟩ := dumps_cons (hplain v List.mem_cons_self)
      cases vs with
      | nil => exact ⟨c, cs, by rw [dumpsItems, hv], hc⟩
      | cons w vs => exact ⟨c, _, by rw [dumpsItems, hv, List.cons_append], hc⟩
    obtain ⟨c, cs, heq, hc⟩ := hcons
    have hitems := readItems_dumpsItems (v :: vs) (by simp) hplain h fuel rest (by simp at hfuel; omega)
    rw [heq] at hitems ⊢
    simp only [List.cons_append, List.append_assoc, List.nil_append] at hitems ⊢
    rw [readValue_array fuel hc, hitems, Option.map_some]

theorem readValue_obj {fields : List (String × Json)} (h : ∀ f ∈ fields, GivesBack f.2) : GivesBack (.obj fields) := by
  intro fuel rest hfuel _
  rw [dumps] at hfuel ⊢
  obtain ⟨fuel, rfl⟩ : ∃ f, fuel = f + 1 := ⟨fuel - 1, by simp at hfuel; omega⟩
  cases fields with
  | nil =>
    rw [dumpsFields]
    rfl
  | cons f fs =>
    have hcons : ∃ cs, dumpsFields (f :: fs) = '\"' :: cs := by
      obtain ⟨k, v⟩ := f
      cases fs with
      | nil => exact ⟨_, by rw [dumpsFields, dumpsStr, List.cons_append, List.cons_append]⟩
      | cons g fs => exact ⟨_, by rw [dumpsFields, dumpsStr, List.cons_append, List.cons_append, List.cons_append]⟩
    obtain ⟨cs, heq⟩ := hcons
    have hfields := readFields_dumpsFields (f :: fs) (by simp) h fuel rest (by simp at hfuel; omega)
    rw [heq] at hfields ⊢
    simp only [List.cons_append, List.append_assoc, List.nil_append] at hfields ⊢
    rw [readValue_object, hfields, Option.map_some]

/-- The induction is on the nesting: the items of an array or an object are read
back by the hypothesis for the depth below. -/
theorem readValue_dumps {v : Json} (h : Plain exact text depth v) : GivesBack v := by
  induction depth generalizing v with
  | zero =>
    cases v with
    | arr _ => exact absurd h id
    | obj _ => exact absurd h id
    | _ => exact readValue_scalar h rfl
  | succ depth ih =>
    cases v with
    | arr items => exact readValue_arr h (fun v hv => ih (h v hv))
    | obj fields => exact readValue_obj (fun f hf => ih (h.2 f hf).2)
    | _ => exact readValue_scalar h rfl

/-- The reader is one that can be relied on. -/
theorem reads_read (exact : Int → Prop) : Reads exact read := by
  intro depth _ v h
  have hback := readValue_dumps h (dumps v).length [] le_rfl stops_nil
  rw [List.append_nil] at hback
  rw [read, hback]

end RealtimeVoice.Base.Json
