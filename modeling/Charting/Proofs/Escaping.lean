import Charting.Svg.Drawing
import Mathlib.Data.List.Basic

namespace Charting

def SvgAttribute.escaped (a : SvgAttribute) : SvgAttribute :=
  { a with value := SvgElement.escape a.value }

namespace SvgElement

-- The entities of a text replaced by the characters that they stand for.
def unescapeChars : List Char → List Char
  | '&' :: 'a' :: 'm' :: 'p' :: ';' :: rest => '&' :: unescapeChars rest
  | '&' :: 'l' :: 't' :: ';' :: rest => '<' :: unescapeChars rest
  | '&' :: 'g' :: 't' :: ';' :: rest => '>' :: unescapeChars rest
  | '&' :: 'q' :: 'u' :: 'o' :: 't' :: ';' :: rest => '"' :: unescapeChars rest
  | '&' :: 'a' :: 'p' :: 'o' :: 's' :: ';' :: rest => '\'' :: unescapeChars rest
  | c :: rest => c :: unescapeChars rest
  | [] => []

def unescape (text : String) : String :=
  String.ofList (unescapeChars text.toList)

-- A text that a reader does not take for the end of itself.
def Inert (text : String) : Prop :=
  ∀ c ∈ text.toList, c ≠ '<' ∧ c ≠ '>' ∧ c ≠ '"'

def Plain (text : List Char) : Prop :=
  ∀ c ∈ text, escapeChar c = [c]

instance (text : String) : Decidable (Inert text) :=
  List.decidableBAll (fun c => c ≠ '<' ∧ c ≠ '>' ∧ c ≠ '"') text.toList

instance (text : List Char) : Decidable (Plain text) :=
  List.decidableBAll (fun c => escapeChar c = [c]) text

theorem escapeChar_cases (c : Char) :
    c = '&' ∨ c = '<' ∨ c = '>' ∨ c = '"' ∨ c = '\'' ∨
      (c ≠ '&' ∧ c ≠ '<' ∧ c ≠ '>' ∧ c ≠ '"') ∧ escapeChar c = [c] := by
  unfold escapeChar
  split <;> simp_all

theorem unescapeChars_cons {c : Char} (other : c ≠ '&') (rest : List Char) :
    unescapeChars (c :: rest) = c :: unescapeChars rest := by
  rw [unescapeChars.eq_def]
  split <;> simp_all

theorem unescapeChars_escapeChar (c : Char) (rest : List Char) :
    unescapeChars (escapeChar c ++ rest) = c :: unescapeChars rest := by
  rcases escapeChar_cases c with rfl | rfl | rfl | rfl | rfl | ⟨⟨other, _⟩, same⟩
  · rfl
  · rfl
  · rfl
  · rfl
  · rfl
  · rw [same]
    exact unescapeChars_cons other rest

theorem unescapeChars_flatMap (text : List Char) : unescapeChars (text.flatMap escapeChar) = text := by
  induction text with
  | nil => rfl
  | cons c rest ih => rw [List.flatMap_cons, unescapeChars_escapeChar, ih]

theorem unescape_escape (text : String) : unescape (escape text) = text := by
  rw [unescape, escape, String.toList_ofList, unescapeChars_flatMap, String.ofList_toList]

example : escape "a < &lt;" = "a &lt; &amp;lt;" := by
  decide

theorem escape_injective : Function.Injective escape :=
  Function.LeftInverse.injective unescape_escape

theorem escape_inert (text : String) : Inert (escape text) := by
  intro c member
  rw [escape, String.toList_ofList, List.mem_flatMap] at member
  obtain ⟨d, _, escaped⟩ := member
  rcases escapeChar_cases d with rfl | rfl | rfl | rfl | rfl | ⟨⟨_, opening, closing, quote⟩, same⟩
  · exact (by decide : Inert "&amp;") c escaped
  · exact (by decide : Inert "&lt;") c escaped
  · exact (by decide : Inert "&gt;") c escaped
  · exact (by decide : Inert "&quot;") c escaped
  · exact (by decide : Inert "&apos;") c escaped
  · rw [same, List.mem_singleton] at escaped
    subst c
    exact ⟨opening, closing, quote⟩

namespace Plain

variable {text other : List Char}

theorem append (left : Plain text) (right : Plain other) : Plain (text ++ other) := by
  intro c member
  exact (List.mem_append.mp member).elim (left c) (right c)

theorem cons {c : Char} (first : escapeChar c = [c]) (rest : Plain text) : Plain (c :: text) :=
  append (List.forall_mem_singleton.mpr first) rest

theorem nil : Plain [] :=
  nofun

theorem subset (plain : Plain text) (within : other ⊆ text) : Plain other :=
  fun c member => plain c (within member)

theorem escape {text : String} (plain : Plain text.toList) : SvgElement.escape text = text := by
  have same : text.toList.flatMap escapeChar = text.toList :=
    (List.flatMap_congr plain).trans (List.flatMap_singleton' text.toList)
  rw [SvgElement.escape, same, String.ofList_toList]

theorem intercalate {gap : List Char} {texts : List (List Char)} (between : Plain gap)
    (each : ∀ text ∈ texts, Plain text) : Plain (gap.intercalate texts) := by
  induction texts with
  | nil => exact nil
  | cons first rest ih =>
    have head := each first List.mem_cons_self
    cases rest with
    | nil => rwa [List.intercalate_singleton]
    | cons second rest =>
      rw [List.intercalate_cons_cons]
      exact append (append head between) (ih fun text member => each text (List.mem_cons_of_mem _ member))

end Plain

theorem digit_plain (n : Nat) : Plain [Numeral.digit n] := by
  have digits : ∀ k < 10, escapeChar (Char.ofNat ('0'.toNat + k)) = [Char.ofNat ('0'.toNat + k)] := by decide
  exact Plain.cons (digits (n % 10) (Nat.mod_lt _ (by decide))) .nil

theorem padded_plain (places n : Nat) : Plain (Numeral.padded places n) := by
  induction places generalizing n with
  | zero => exact .nil
  | succ places ih => exact (ih (n / 10)).append (digit_plain n)

theorem ofNat_plain (n : Nat) : Plain (Numeral.ofNat n) := by
  induction n using Numeral.ofNat.induct with
  | case1 n small =>
    rw [Numeral.ofNat, if_pos small]
    exact digit_plain n
  | case2 n large ih =>
    rw [Numeral.ofNat, if_neg large]
    exact ih.append (digit_plain n)

theorem hexByte_plain (n : Nat) : Plain (Numeral.hexByte n) := by
  have digits : ∀ k < 16, escapeChar k.digitChar = [k.digitChar] := by decide
  exact .cons (digits _ (Nat.mod_lt _ (by decide))) (.cons (digits _ (Nat.mod_lt _ (by decide))) .nil)

theorem ofMillionths_plain (negative : Bool) (n : Nat) : Plain (Decimal.ofMillionths negative n) := by
  have places : Plain (Decimal.dropTrailingZeros (Numeral.padded 6 (n % 1000000))) := by
    refine (padded_plain 6 (n % 1000000)).subset fun c member => ?_
    have kept := (List.dropWhile_sublist _).subset (List.mem_reverse.mp member)
    exact List.mem_reverse.mp kept
  unfold Decimal.ofMillionths
  refine .append (.append ?_ (ofNat_plain _)) ?_
  · split
    · exact .cons rfl .nil
    · exact .nil
  · split
    · exact .nil
    · exact .cons rfl places

theorem number_plain (x : Float) : Plain (Double.text x).toList := by
  unfold Double.text
  split
  · rw [String.toList_ofList]
    exact ofMillionths_plain _ _
  · split
    · split <;> decide
    · decide

theorem pointText_plain (p : Point Float) : Plain (pointText p).toList := by
  unfold pointText
  rw [String.toList_append, String.toList_append]
  exact ((number_plain p.x).append (by decide)).append (number_plain p.y)

theorem pathElementText_plain (element : PathElement Float) : Plain (pathElementText element).toList := by
  cases element with
  | move p | line p =>
    rw [pathElementText, String.toList_append]
    exact .append (by decide) (pointText_plain p)
  | curve p q r =>
    simp only [pathElementText, String.toList_append]
    have blank : Plain " ".toList := by decide
    have first := Plain.append (by decide : Plain "C".toList) (pointText_plain p)
    exact (((first.append blank).append (pointText_plain q)).append blank).append (pointText_plain r)
  | close => decide

theorem pathText_plain (path : Path Float) : Plain (pathText path).toList := by
  rw [pathText, String.toList_intercalate]
  refine .intercalate (by decide) ?_
  simp only [List.mem_map]
  rintro _ ⟨_, ⟨element, _, rfl⟩, rfl⟩
  exact pathElementText_plain element

theorem hex_plain (color : Color) : Plain color.hex.toList := by
  rw [Color.hex, String.toList_ofList]
  refine .cons rfl ?_
  intro c member
  obtain ⟨component, _, inside⟩ := List.mem_flatMap.mp member
  exact hexByte_plain _ c inside

def IsName (name : String) : Prop :=
  ∀ c ∈ name.toList, c ≠ ' ' ∧ c ≠ '/' ∧ c ≠ '=' ∧ c ≠ '<' ∧ c ≠ '>'

instance (name : String) : Decidable (IsName name) :=
  List.decidableBAll (fun c => c ≠ ' ' ∧ c ≠ '/' ∧ c ≠ '=' ∧ c ≠ '<' ∧ c ≠ '>') name.toList

-- Attributes of which a reader can tell where each name and each value ends.
def Readable (attributes : List SvgAttribute) : Prop :=
  ∀ a ∈ attributes, IsName a.name ∧ Inert a.value

-- Attributes that stand in a document as they are. The family of a font never does.
def Verbatim (attributes : List SvgAttribute) : Prop :=
  ∀ a ∈ attributes, (IsName a.name ∧ a.name ≠ "font-family") ∧ Plain a.value.toList

namespace Verbatim

variable {attributes others : List SvgAttribute}

theorem nil : Verbatim [] :=
  nofun

theorem cons {name value : String} (own : IsName name ∧ name ≠ "font-family") (plain : Plain value.toList)
    (rest : Verbatim attributes) : Verbatim (⟨name, value⟩ :: attributes) :=
  List.forall_mem_cons.mpr ⟨⟨own, plain⟩, rest⟩

theorem append (left : Verbatim attributes) (right : Verbatim others) : Verbatim (attributes ++ others) :=
  List.forall_mem_append.mpr ⟨left, right⟩

theorem escaped (verbatim : Verbatim attributes) : attributes.map SvgAttribute.escaped = attributes := by
  have same : ∀ a ∈ attributes, a.escaped = id a :=
    fun a member => congrArg (SvgAttribute.mk a.name) (verbatim a member).2.escape
  rw [List.map_congr_left same, List.map_id]

theorem readable (verbatim : Verbatim attributes) : Readable attributes := by
  intro a member
  refine ⟨(verbatim a member).1.1, ?_⟩
  rw [← (verbatim a member).2.escape]
  exact escape_inert a.value

end Verbatim

theorem paintAttributes_verbatim {name : String} (color : Color) (own : IsName name ∧ name ≠ "font-family")
    (veiled : IsName (name ++ "-opacity") ∧ name ++ "-opacity" ≠ "font-family") :
    Verbatim (paintAttributes name color) := by
  refine .cons own (hex_plain color) ?_
  split
  · exact .nil
  · exact .cons veiled (number_plain _) .nil

def IsPath (element : SvgElement) : Prop :=
  ∃ attributes, element = .shape "path" attributes ∧ attributes ≠ [] ∧ Verbatim attributes

theorem ofFill_isPath (path : Path Float) (rule : FillRule) (color : Color) : IsPath (ofFill path rule color) := by
  refine ⟨_, rfl, List.cons_ne_nil _ _, .append (.cons (by decide) (pathText_plain path) ?_) ?_⟩
  · exact paintAttributes_verbatim color (by decide) (by decide)
  · split
    · exact .cons (by decide) (by decide) .nil
    · exact .nil

theorem ofStroke_isPath (path : Path Float) (width : Float) (color : Color) : IsPath (ofStroke path width color) := by
  refine ⟨_, rfl, List.cons_ne_nil _ _, .append (.append ?_ ?_) ?_⟩
  · exact .cons (by decide) (pathText_plain path) (.cons (by decide) (by decide) .nil)
  · exact paintAttributes_verbatim color (by decide) (by decide)
  · exact .cons (by decide) (number_plain width) .nil

theorem turnAttributes_verbatim (run : TextRun Float) : Verbatim (turnAttributes run) := by
  unfold turnAttributes
  split
  · exact .nil
  · refine .cons (by decide) ?_ .nil
    simp only [String.toList_append]
    have blank : Plain " ".toList := by decide
    have angle := Plain.append (by decide : Plain "rotate(".toList) (number_plain run.angle)
    have center := ((angle.append blank).append (number_plain run.position.x)).append blank
    exact (center.append (number_plain run.position.y)).append (by decide)

theorem ofRun_attributes (run : TextRun Float) :
    ∃ before after, ofRun run = .text (before ++ ⟨"font-family", run.style.family.cssName⟩ :: after) run.text ∧
      Verbatim before ∧ Verbatim after := by
  refine ⟨[⟨"x", Double.text run.position.x⟩, ⟨"y", Double.text run.position.y⟩,
    ⟨"font-size", Double.text run.style.size⟩], _, rfl, ?_, ?_⟩
  · exact .cons (by decide) (number_plain _) (.cons (by decide) (number_plain _)
      (.cons (by decide) (number_plain _) .nil))
  · refine .append (.append (.cons (by decide) ?_ (turnAttributes_verbatim run)) ?_) ?_
    · cases run.baseline <;> decide
    · refine .cons (by decide) ?_ .nil
      cases run.anchor <;> decide
    · exact paintAttributes_verbatim run.color (by decide) (by decide)

end SvgElement

def DrawCall.isText {α : Type} : DrawCall α → Bool
  | .text _ => true
  | _ => false

theorem SvgElement.ofCall_isPath {call : DrawCall Float} (path : call.isText = false) : IsPath (ofCall call) := by
  cases call with
  | fillRect | fillCircle | fillPath => exact ofFill_isPath _ _ _
  | line | strokePath => exact ofStroke_isPath _ _ _
  | text => cases path

end Charting
