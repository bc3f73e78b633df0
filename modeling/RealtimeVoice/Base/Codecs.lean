import Mathlib

namespace RealtimeVoice.Base

/-- An encoder with its decoder; each is absent where it refuses. -/
structure Codec (α β : Type*) where
  encode : α → Option β
  decode : β → Option α

namespace Codec

variable {α β γ : Type*} {c : Codec α β} {pack : α → Option β} {able : α → Prop} {able' : γ → Prop}
  {forth : γ → Option α} {back : α → γ} {a : α} {b : β}

/-- Decoding undoes the encoding of what a sender is able to send. -/
def Lossless (c : Codec α β) (able : α → Prop) : Prop := ∀ a b, able a → c.encode a = some b → c.decode b = some a

/-- Encoding undoes the decoding of one wire. -/
def CanonicalAt (c : Codec α β) (b : β) : Prop := ∀ a, c.decode b = some a → c.encode a = some b

/-- What the encoder writes is the packed form. -/
def Writes (c : Codec α β) (pack : α → Option β) : Prop := ∀ a b, c.encode a = some b → pack a = some b

/-- A codec seen through another type of its values. -/
def view (c : Codec α β) (forth : γ → Option α) (back : α → γ) : Codec γ β where
  encode g := (forth g).bind c.encode
  decode b := (c.decode b).map back

/-- A receiver reads what another one packed where it would send that itself. -/
theorem Lossless.decode_of_isSome (h : c.Lossless able) (hwrites : c.Writes pack) (hpack : pack a = some b)
    (hable : able a) (hsome : (c.encode a).isSome) : c.decode b = some a := by
  obtain ⟨b', hencode⟩ := Option.isSome_iff_exists.mp hsome
  have hpack' := hwrites a b' hencode
  rw [hpack] at hpack'
  obtain rfl := Option.some.inj hpack'
  exact h a b hable hencode

/-- On a wire that its encoder would give back it reads nothing else. -/
theorem Lossless.decode_iff (h : c.Lossless able) (hwrites : c.Writes pack) (hpack : pack a = some b) (hable : able a)
    (hcanonical : c.CanonicalAt b) : c.decode b = some a ↔ (c.encode a).isSome := by
  constructor
  · intro hdecode
    rw [hcanonical a hdecode]
    rfl
  · exact h.decode_of_isSome hwrites hpack hable

theorem encode_view {g : γ} : (c.view forth back).encode g = some b ↔ ∃ a, forth g = some a ∧ c.encode a = some b :=
  Option.bind_eq_some_iff

theorem decode_view {g : γ} : (c.view forth back).decode b = some g ↔ ∃ a, c.decode b = some a ∧ back a = g :=
  Option.map_eq_some_iff

theorem Lossless.view (h : c.Lossless able)
    (hback : ∀ g a, able' g → forth g = some a → able a ∧ back a = g) : (c.view forth back).Lossless able' := by
  intro g b hg hview
  obtain ⟨a, hforth, hencode⟩ := encode_view.mp hview
  obtain ⟨ha, rfl⟩ := hback g a hg hforth
  exact decode_view.mpr ⟨a, h a b ha hencode, rfl⟩

theorem canonicalAt_view (hforth : ∀ a, c.decode b = some a → forth (back a) = some a) :
    (c.view forth back).CanonicalAt b ↔ c.CanonicalAt b := by
  constructor
  · intro h a hdecode
    obtain ⟨a', hforth', hencode⟩ := encode_view.mp (h (back a) (decode_view.mpr ⟨a, hdecode, rfl⟩))
    rw [hforth a hdecode] at hforth'
    obtain rfl := Option.some.inj hforth'
    exact hencode
  · intro h g hdecode
    obtain ⟨a, ha, rfl⟩ := decode_view.mp hdecode
    exact encode_view.mpr ⟨a, hforth a ha, h a ha⟩

theorem Writes.view {pack' : γ → Option β} (h : c.Writes pack) (hpack : ∀ g a, forth g = some a → pack a = pack' g) :
    (c.view forth back).Writes pack' := by
  intro g b hview
  obtain ⟨a, hforth, hencode⟩ := encode_view.mp hview
  rw [← hpack g a hforth]
  exact h a b hencode

end Codec

end RealtimeVoice.Base
