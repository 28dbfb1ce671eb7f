import VoodooPS2.Machine.Mealy
import VoodooPS2.Machine.PrefixFree

variable {α β : Type*} [DecidableEq β]

-- The symbols are recovered from a stream of code words, one letter at a time. Letters that cannot become
-- a code word are dropped.
def wordDecoder (symbols : List α) (code : α → List β) : Mealy (List β) β α where
  step pending b :=
    let word := pending ++ [b]
    match symbols.find? (code · = word) with
    | some a => ([], [a])
    | none   => if symbols.any (word <+: code ·) then (word, []) else ([], [])

namespace PrefixFree

variable {symbols : List α} {code : α → List β} {a : α} {as : List α} {s t : List β} {b : β}

theorem decoder_last (h : PrefixFree (· ∈ symbols) code) (ha : a ∈ symbols) (he : s ++ [b] = code a) :
    (wordDecoder symbols code).step s b = ([], [a]) := by
  have hf : symbols.find? (code · = s ++ [b]) = some a := by
    cases hf : symbols.find? (code · = s ++ [b])
    case none    => simpa [he] using List.find?_eq_none.mp hf a ha
    case some a' =>
      have hc : code a' = s ++ [b] := by simpa using List.find?_some hf
      have hp : code a' <+: code a := by rw [hc, he]
      rw [h a' a (List.mem_of_find?_eq_some hf) ha hp]
  simp [wordDecoder, hf]

theorem decoder_more (h : PrefixFree (· ∈ symbols) code) (ha : a ∈ symbols) (he : s ++ b :: t = code a)
    (ht : t ≠ []) : (wordDecoder symbols code).step s b = (s ++ [b], []) := by
  have hp : s ++ [b] <+: code a := ⟨t, by rw [← he, List.append_assoc]; rfl⟩
  have hf : symbols.find? (code · = s ++ [b]) = none := by
    apply List.find?_eq_none.mpr
    intro a' ha' hc
    have hc : code a' = s ++ [b] := by simpa using hc
    obtain rfl := h a' a ha' ha (hc ▸ hp)
    apply ht
    simpa [hc] using he
  have hs : symbols.any (s ++ [b] <+: code ·) = true := List.any_eq_true.mpr ⟨a, ha, by simpa using hp⟩
  simp only [wordDecoder, hf, hs, if_true]

-- From the middle of a code word.
theorem decoder_rest (h : PrefixFree (· ∈ symbols) code) (ha : a ∈ symbols) (he : s ++ t = code a) (ht : t ≠ []) :
    (wordDecoder symbols code).run s t = ([], [a]) := by
  induction t generalizing s
  case nil         => exact absurd rfl ht
  case cons b t hi =>
    cases t
    case nil      => simp [Mealy.run, h.decoder_last ha he]
    case cons c t =>
      have hr := h.decoder_more ha he (List.cons_ne_nil c t)
      rw [Mealy.run, hr, hi (by simpa using he) (List.cons_ne_nil c t)]
      rfl

theorem decoder_word (h : PrefixFree (· ∈ symbols) code) (ha : a ∈ symbols) (hn : code a ≠ []) :
    (wordDecoder symbols code).run [] (code a) = ([], [a]) :=
  h.decoder_rest ha rfl hn

end PrefixFree
