import Charting.Scalar

namespace Charting

inductive FontFamily where
  | serif
  | sansSerif
  | monospace
  | named (name : String)
deriving DecidableEq

def FontFamily.cssName : FontFamily → String
  | .serif => "serif"
  | .sansSerif => "sans-serif"
  | .monospace => "monospace"
  | .named name => name

inductive Slant where
  | normal
  | italic
  | oblique
deriving DecidableEq

structure TextStyle (α : Type) where
  size : α
  family : FontFamily := .sansSerif
  weight : Nat := 400
  slant : Slant := .normal
deriving DecidableEq

structure TextMetrics (α : Type) where
  advance : α
  ascent : α
  descent : α
  leading : α

-- The character under an offset, or the number of characters where the offset is past the text.
structure TextHit where
  index : Nat
  inside : Bool
deriving DecidableEq

variable {α : Type} [Scalar α]

def TextStyle.standard : TextStyle α :=
  { size := 12 }

def TextMetrics.lineHeight (m : TextMetrics α) : α :=
  m.ascent + m.descent + m.leading

-- A measurer may keep a state, as a cache does, so each answer comes with the measurer that is left.
class TextMeasurer (α M : Type) where
  measure : String → TextStyle α → StateM M (TextMetrics α)
  hit : String → TextStyle α → α → StateM M TextHit

namespace TextMeasurer

variable {M : Type}

-- Measures ever longer beginnings of a text until one ends right of the offset. `width` is the width of
-- the beginning `seen`, which has `index` characters.
def prefixHitFrom (measure : String → TextStyle α → StateM M (TextMetrics α)) (style : TextStyle α) (x : α) :
    String → Nat → α → List Char → StateM M TextHit
  | _, index, _, [] => pure ⟨index, false⟩
  | seen, index, width, c :: rest => do
    let seen := seen.push c
    let metrics ← measure seen style
    if width ≤ x ∧ x < metrics.advance then pure ⟨index, true⟩
    else prefixHitFrom measure style x seen (index + 1) metrics.advance rest

def prefixHit (measure : String → TextStyle α → StateM M (TextMetrics α)) (text : String) (style : TextStyle α)
    (x : α) : StateM M TextHit :=
  prefixHitFrom measure style x "" 0 0 text.toList

end TextMeasurer

structure FontMetrics (α : Type) where
  charWidth : α
  lineHeight : α
  ascent : α

namespace FontMetrics

def sample : String :=
  "ABCDEFGHIJKLMNOPQRSTUVWXYZabcdefghijklmnopqrstuvwxyz"

def ofSample (m : TextMetrics α) : FontMetrics α where
  charWidth := Scalar.round (m.advance / Scalar.ofNat sample.length * 2) / 2
  lineHeight := m.lineHeight
  ascent := m.ascent

def measure {M : Type} [TextMeasurer α M] (style : TextStyle α) : StateM M (FontMetrics α) := do
  return ofSample (← TextMeasurer.measure sample style)

end FontMetrics

end Charting
