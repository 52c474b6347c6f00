import Charting.Proofs.Escaping
import Mathlib.Data.List.Forall2

namespace Charting

inductive SvgToken where
  | opening (tag : String) (attributes : List SvgAttribute)
  | closing (tag : String)
  | single (tag : String) (attributes : List SvgAttribute)
  | text (content : String)

def SvgToken.isText : SvgToken → Bool
  | .text _ => true
  | _ => false

inductive SvgPlace where
  | text (seen : List Char)
  | tag (seen : List Char)
  | closing (seen : List Char)
  | inside (tag : String) (attributes : List SvgAttribute)
  | name (tag : String) (attributes : List SvgAttribute) (seen : List Char)
  | equals (tag : String) (attributes : List SvgAttribute) (name : String)
  | value (tag : String) (attributes : List SvgAttribute) (name : String) (seen : List Char)
  | slash (tag : String) (attributes : List SvgAttribute)

structure SvgReader where
  tokens : List SvgToken := []
  place : SvgPlace := .text []

namespace SvgReader

def moved (place : SvgPlace) (r : SvgReader) : SvgReader :=
  { r with place }

def note (token : SvgToken) (place : SvgPlace) (r : SvgReader) : SvgReader :=
  { tokens := r.tokens ++ [token], place }

def readOpening (r : SvgReader) : Option SvgReader :=
  match r.place with
  | .text seen => some (r.note (.text (String.ofList seen)) (.tag []))
  | _ => none

def readInside (tag : String) (attributes : List SvgAttribute) (c : Char) (r : SvgReader) : Option SvgReader :=
  if c = ' ' then some (r.moved (.name tag attributes []))
  else if c = '/' then some (r.moved (.slash tag attributes))
  else if c = '>' then some (r.note (.opening tag attributes) (.text []))
  else none

def read (r : SvgReader) (c : Char) : Option SvgReader :=
  if c = '<' then r.readOpening
  else
    match r.place with
    | .text seen => if c = '>' then none else some (r.moved (.text (seen ++ [c])))
    | .tag seen =>
      if c = '/' ∧ seen = [] then some (r.moved (.closing []))
      else if c = ' ' ∨ c = '/' ∨ c = '>' then r.readInside (String.ofList seen) [] c
      else some (r.moved (.tag (seen ++ [c])))
    | .closing seen =>
      if c = '>' then some (r.note (.closing (String.ofList seen)) (.text []))
      else some (r.moved (.closing (seen ++ [c])))
    | .inside tag attributes => r.readInside tag attributes c
    | .name tag attributes seen =>
      if c = '=' then some (r.moved (.equals tag attributes (String.ofList seen)))
      else some (r.moved (.name tag attributes (seen ++ [c])))
    | .equals tag attributes name => if c = '"' then some (r.moved (.value tag attributes name [])) else none
    | .value tag attributes name seen =>
      if c = '"' then some (r.moved (.inside tag (attributes ++ [⟨name, String.ofList seen⟩])))
      else if c = '>' then none
      else some (r.moved (.value tag attributes name (seen ++ [c])))
    | .slash tag attributes => if c = '>' then some (r.note (.single tag attributes) (.text [])) else none

-- All tokens of a document, from the text before the first tag to the text after the last one.
def scan (document : String) : Option (List SvgToken) :=
  match document.toList.foldlM read {} with
  | some ⟨tokens, .text seen⟩ => some (tokens ++ [.text (String.ofList seen)])
  | _ => none

def Reads (r : SvgReader) (text : List Char) (s : SvgReader) : Prop :=
  text.foldlM read r = some s

variable {r s t : SvgReader} {text rest : List Char} {c : Char}

theorem Reads.nil : r.Reads [] r :=
  rfl

theorem Reads.append (first : r.Reads text s) (second : s.Reads rest t) : r.Reads (text ++ rest) t := by
  unfold Reads at *
  rw [List.foldlM_append, first]
  exact second

theorem Reads.cons (first : r.read c = some s) (second : s.Reads rest t) : r.Reads (c :: rest) t := by
  unfold Reads at *
  rw [List.foldlM_cons, first]
  exact second

-- A reader goes on in one place as long as nothing stops it there.
theorem reads_run {place : List Char → SvgPlace} {goesOn : Char → Prop} {tokens : List SvgToken}
    (step : ∀ seen c, goesOn c → read ⟨tokens, place seen⟩ c = some ⟨tokens, place (seen ++ [c])⟩)
    (all : ∀ c ∈ text, goesOn c) (seen : List Char) :
    Reads ⟨tokens, place seen⟩ text ⟨tokens, place (seen ++ text)⟩ := by
  induction text generalizing seen with
  | nil =>
    rw [List.append_nil]
    exact .nil
  | cons c rest ih =>
    have here := all c List.mem_cons_self
    have after := ih (fun d member => all d (List.mem_cons_of_mem _ member)) (seen ++ [c])
    rw [List.append_assoc] at after
    exact .cons (step seen c here) after

variable {tokens : List SvgToken} {tag name : String} {attributes : List SvgAttribute}

theorem reads_text (quiet : ∀ c ∈ text, c ≠ '<' ∧ c ≠ '>') (seen : List Char) :
    Reads ⟨tokens, .text seen⟩ text ⟨tokens, .text (seen ++ text)⟩ := by
  refine reads_run (fun seen c quiet => ?_) quiet seen
  simp [read, quiet, moved]

theorem reads_name (isName : SvgElement.IsName name) :
    Reads ⟨tokens, .name tag attributes []⟩ name.toList ⟨tokens, .name tag attributes name.toList⟩ := by
  refine reads_run (fun seen c ends => ?_) isName []
  simp [read, ends, moved]

theorem reads_tag (isName : SvgElement.IsName tag) :
    Reads ⟨tokens, .tag []⟩ tag.toList ⟨tokens, .tag tag.toList⟩ := by
  refine reads_run (fun seen c ends => ?_) isName []
  simp [read, ends, moved]

theorem reads_end (isName : SvgElement.IsName tag) :
    Reads ⟨tokens, .closing []⟩ tag.toList ⟨tokens, .closing tag.toList⟩ := by
  refine reads_run (fun seen c ends => ?_) isName []
  simp [read, ends, moved]

theorem reads_value {value : String} (inert : SvgElement.Inert value) :
    Reads ⟨tokens, .value tag attributes name []⟩ value.toList ⟨tokens, .value tag attributes name value.toList⟩ := by
  refine reads_run (fun seen c ends => ?_) inert []
  simp [read, ends, moved]

def chars (a : SvgAttribute) : List Char :=
  ' ' :: (a.name.toList ++ '=' :: '"' :: (a.value.toList ++ ['"']))

theorem reads_attribute {a : SvgAttribute} (isName : SvgElement.IsName a.name) (inert : SvgElement.Inert a.value) :
    Reads ⟨tokens, .inside tag attributes⟩ (chars a) ⟨tokens, .inside tag (attributes ++ [a])⟩ := by
  have named : read ⟨tokens, .name tag attributes a.name.toList⟩ '=' =
      some ⟨tokens, .equals tag attributes a.name⟩ := by
    simp [read, moved]
  have ended : read ⟨tokens, .value tag attributes a.name a.value.toList⟩ '"' =
      some ⟨tokens, .inside tag (attributes ++ [a])⟩ := by
    simp [read, moved]
  exact .cons rfl ((reads_name isName).append (.cons named (.cons rfl ((reads_value inert).append (.cons ended .nil)))))

theorem reads_attributes {others : List SvgAttribute} (readable : SvgElement.Readable others) :
    Reads ⟨tokens, .inside tag attributes⟩ (others.flatMap chars) ⟨tokens, .inside tag (attributes ++ others)⟩ := by
  induction others generalizing attributes with
  | nil =>
    rw [List.append_nil]
    exact .nil
  | cons a rest ih =>
    obtain ⟨isName, inert⟩ := readable a List.mem_cons_self
    have first : Reads ⟨tokens, .inside tag attributes⟩ _ _ := reads_attribute isName inert
    have after := first.append (ih fun b member => readable b (List.mem_cons_of_mem _ member))
    rwa [List.append_assoc] at after

theorem Reads.inside (reads : Reads ⟨tokens, .inside tag []⟩ (' ' :: text) s) :
    Reads ⟨tokens, .tag tag.toList⟩ (' ' :: text) s := by
  have same : read ⟨tokens, .tag tag.toList⟩ ' ' = read ⟨tokens, .inside tag []⟩ ' ' := by
    simp [read, readInside, moved]
  unfold Reads at *
  rw [List.foldlM_cons, same]
  exact reads

def begun (tag : String) (attributes : List SvgAttribute) : List Char :=
  '<' :: (tag.toList ++ attributes.flatMap chars)

theorem reads_begun (seen : List Char) (isName : SvgElement.IsName tag) (filled : attributes ≠ [])
    (readable : SvgElement.Readable attributes) :
    Reads ⟨tokens, .text seen⟩ (begun tag attributes)
      ⟨tokens ++ [.text (String.ofList seen)], .inside tag attributes⟩ := by
  refine .cons rfl ((reads_tag isName).append ?_)
  cases attributes with
  | nil => exact absurd rfl filled
  | cons a rest => exact (reads_attributes readable).inside

theorem reads_single (seen : List Char) (isName : SvgElement.IsName tag) (filled : attributes ≠ [])
    (readable : SvgElement.Readable attributes) :
    Reads ⟨tokens, .text seen⟩ (begun tag attributes ++ ['/', '>', '\n'])
      ⟨tokens ++ [.text (String.ofList seen), .single tag attributes], .text ['\n']⟩ := by
  refine (reads_begun seen isName filled readable).append (.cons rfl (.cons rfl (.cons ?_ .nil)))
  simp [read, note, moved]

theorem reads_opening (seen : List Char) (isName : SvgElement.IsName tag) (filled : attributes ≠ [])
    (readable : SvgElement.Readable attributes) :
    Reads ⟨tokens, .text seen⟩ (begun tag attributes ++ ['>'])
      ⟨tokens ++ [.text (String.ofList seen), .opening tag attributes], .text []⟩ := by
  refine (reads_begun seen isName filled readable).append (.cons ?_ .nil)
  simp [read, readInside, note]

theorem reads_closing (seen : List Char) (isName : SvgElement.IsName tag) :
    Reads ⟨tokens, .text seen⟩ ('<' :: '/' :: (tag.toList ++ ['>', '\n']))
      ⟨tokens ++ [.text (String.ofList seen), .closing tag], .text ['\n']⟩ := by
  refine .cons rfl (.cons rfl ((reads_end isName).append (.cons rfl (.cons ?_ .nil))))
  simp [read, note, moved]

def texts (r : SvgReader) : Nat :=
  r.tokens.countP SvgToken.isText

@[simp]
theorem moved_texts (place : SvgPlace) (r : SvgReader) : (r.moved place).texts = r.texts :=
  rfl

@[simp]
theorem note_texts (token : SvgToken) (place : SvgPlace) (r : SvgReader) :
    (r.note token place).texts = r.texts + if token.isText then 1 else 0 := by
  simp [texts, note, List.countP_singleton]

theorem readOpening_texts (reads : r.readOpening = some s) : s.texts = r.texts + 1 := by
  unfold readOpening at reads
  split at reads <;> cases reads
  simp [SvgToken.isText]

theorem readInside_texts (reads : r.readInside tag attributes c = some s) : s.texts = r.texts := by
  unfold readInside at reads
  split at reads
  · cases reads
    simp
  · split at reads
    · cases reads
      simp
    · split at reads <;> cases reads
      simp [SvgToken.isText]

theorem read_texts (reads : r.read c = some s) : s.texts = r.texts + if c = '<' then 1 else 0 := by
  unfold read at reads
  split at reads
  · rename_i opens
    rw [if_pos opens]
    exact readOpening_texts reads
  · rename_i other
    rw [if_neg other, Nat.add_zero]
    cases place : r.place with
    | text seen =>
      simp only [place] at reads
      split at reads <;> cases reads
      simp
    | tag seen =>
      simp only [place] at reads
      split at reads
      · cases reads
        simp
      · split at reads
        · exact readInside_texts reads
        · cases reads
          simp
    | closing seen =>
      simp only [place] at reads
      split at reads <;> cases reads <;> simp [SvgToken.isText]
    | inside tag attributes =>
      simp only [place] at reads
      exact readInside_texts reads
    | name tag attributes seen =>
      simp only [place] at reads
      split at reads <;> cases reads <;> simp
    | equals tag attributes name =>
      simp only [place] at reads
      split at reads <;> cases reads
      simp
    | value tag attributes name seen =>
      simp only [place] at reads
      split at reads
      · cases reads
        simp
      · split at reads <;> cases reads
        simp
    | slash tag attributes =>
      simp only [place] at reads
      split at reads <;> cases reads
      simp [SvgToken.isText]

theorem Reads.texts (reads : r.Reads text s) : s.texts = r.texts + text.count '<' := by
  induction text generalizing r with
  | nil =>
    cases reads
    rfl
  | cons c rest ih =>
    unfold Reads at reads
    rw [List.foldlM_cons] at reads
    obtain ⟨next, first, others⟩ := Option.bind_eq_some_iff.mp reads
    rw [ih others, read_texts first, List.count_cons]
    simp only [beq_iff_eq]
    omega

end SvgReader

-- The tokens that stand for one call. A fill or a stroke is one path, with all that the drawing says about it. A text
-- is a tag, a content and an end; the entities of the content tell the text, those of its font family the family.
inductive Stands : DrawCall Float → List SvgToken → Prop where
  | path {call : DrawCall Float} {attributes : List SvgAttribute} (path : call.isText = false)
      (drawn : SvgElement.ofCall call = .shape "path" attributes)
      (readable : SvgElement.Readable attributes) : Stands call [.single "path" attributes]
  | text {run : TextRun Float} {before after : List SvgAttribute} {family content : String}
      (drawn : SvgElement.ofCall (.text run) =
        .text (before ++ ⟨"font-family", run.style.family.cssName⟩ :: after) run.text)
      (named : SvgElement.unescape family = run.style.family.cssName)
      (told : SvgElement.unescape content = run.text)
      (readable : SvgElement.Readable (before ++ ⟨"font-family", family⟩ :: after))
      (quiet : SvgElement.Inert content) :
      Stands (.text run)
        [.opening "text" (before ++ ⟨"font-family", family⟩ :: after), .text content, .closing "text"]

namespace SvgDocument

open SvgReader

def Told (call : DrawCall Float) (body : List SvgToken) : Prop :=
  Stands call body ∧ ∀ tokens seen, Reads ⟨tokens, .text seen⟩ (SvgElement.ofCall call).render.toList
    ⟨tokens ++ .text (String.ofList seen) :: body, .text ['\n']⟩

theorem renderAttributes_chars (attributes : List SvgAttribute) :
    (SvgElement.renderAttributes attributes).toList = (attributes.map SvgAttribute.escaped).flatMap chars := by
  rw [SvgElement.renderAttributes, String.toList_join, List.flatMap_map, List.flatMap_map]
  refine List.flatMap_congr fun a _ => ?_
  simp [SvgElement.renderAttribute, SvgAttribute.escaped, chars]

theorem path_told {call : DrawCall Float} (path : call.isText = false) : ∃ body, Told call body := by
  obtain ⟨attributes, drawn, filled, verbatim⟩ := SvgElement.ofCall_isPath path
  refine ⟨_, .path path drawn verbatim.readable, ?_⟩
  intro tokens seen
  have isName : SvgElement.IsName "path" := by decide
  have reads : Reads ⟨tokens, .text seen⟩ _ _ := reads_single seen isName filled verbatim.readable
  have rendered : (SvgElement.ofCall call).render.toList = begun "path" attributes ++ ['/', '>', '\n'] := by
    rw [drawn]
    simp [SvgElement.render, renderAttributes_chars, verbatim.escaped, begun]
  rw [rendered]
  exact reads

theorem text_told (run : TextRun Float) : ∃ body, Told (.text run) body := by
  obtain ⟨before, after, element, leading, trailing⟩ := SvgElement.ofRun_attributes run
  have drawn : SvgElement.ofCall (.text run) = _ := element
  have named : SvgElement.IsName "font-family" := by decide
  have readable : SvgElement.Readable
      (before ++ ⟨"font-family", SvgElement.escape run.style.family.cssName⟩ :: after) :=
    List.forall_mem_append.mpr
      ⟨leading.readable, List.forall_mem_cons.mpr ⟨⟨named, SvgElement.escape_inert _⟩, trailing.readable⟩⟩
  refine ⟨_, .text drawn (SvgElement.unescape_escape _) (SvgElement.unescape_escape _) readable
    (SvgElement.escape_inert _), ?_⟩
  intro tokens seen
  have isName : SvgElement.IsName "text" := by decide
  have quiet : ∀ c ∈ (SvgElement.escape run.text).toList, c ≠ '<' ∧ c ≠ '>' := by
    intro c member
    obtain ⟨opening, closing, _⟩ := SvgElement.escape_inert run.text c member
    exact ⟨opening, closing⟩
  have opened : Reads ⟨tokens, .text seen⟩ _ _ := reads_opening seen isName (by simp) readable
  have whole := (opened.append (reads_text quiet [])).append (reads_closing _ isName)
  rw [drawn]
  simpa [SvgElement.render, renderAttributes_chars, leading.escaped, trailing.escaped, begun,
    SvgAttribute.escaped] using whole

theorem call_told (call : DrawCall Float) : ∃ body, Told call body := by
  cases text : call.isText with
  | false => exact path_told text
  | true =>
    cases call with
    | text run => exact text_told run
    | _ => cases text

theorem calls_told (calls : Picture Float) :
    ∃ bodies, List.Forall₂ Stands calls bodies ∧ ∀ tokens,
      Reads ⟨tokens, .text ['\n']⟩ (calls.flatMap fun call => (SvgElement.ofCall call).render.toList)
        ⟨tokens ++ bodies.flatMap (.text "\n" :: ·), .text ['\n']⟩ := by
  induction calls with
  | nil =>
    refine ⟨[], .nil, fun tokens => ?_⟩
    rw [List.flatMap_nil, List.flatMap_nil, List.append_nil]
    exact .nil
  | cons call rest ih =>
    obtain ⟨body, stands, first⟩ := call_told call
    obtain ⟨bodies, others, after⟩ := ih
    refine ⟨body :: bodies, .cons stands others, fun tokens => ?_⟩
    have whole := (first tokens ['\n']).append (after _)
    rw [List.append_assoc] at whole
    exact whole

def heading (doc : SvgDocument) : List SvgAttribute :=
  [⟨"xmlns", "http://www.w3.org/2000/svg"⟩, ⟨"viewBox", "0 0 " ++ doc.width ++ " " ++ doc.height⟩,
    ⟨"width", doc.width⟩, ⟨"height", doc.height⟩]

theorem heading_verbatim {doc : SvgDocument} (width : SvgElement.Plain doc.width.toList)
    (height : SvgElement.Plain doc.height.toList) : SvgElement.Verbatim doc.heading := by
  have box : SvgElement.Plain ("0 0 " ++ doc.width ++ " " ++ doc.height).toList := by
    have origin : SvgElement.Plain "0 0 ".toList := by decide
    simp only [String.toList_append]
    exact ((origin.append width).append (by decide)).append height
  exact .cons (by decide) (by decide) (.cons (by decide) box (.cons (by decide) width (.cons (by decide) height .nil)))

theorem header_chars (doc : SvgDocument) : doc.header.toList = begun "svg" doc.heading ++ ['>', '\n'] := by
  have opening : "<svg xmlns=\"http://www.w3.org/2000/svg\" viewBox=\"0 0 ".toList =
      '<' :: ("svg".toList ++ (chars ⟨"xmlns", "http://www.w3.org/2000/svg"⟩ ++
        ' ' :: ("viewBox".toList ++ '=' :: '"' :: "0 0 ".toList))) := by decide
  have width : "\" width=\"".toList = '"' :: ' ' :: ("width".toList ++ ['=', '"']) := by decide
  have height : "\" height=\"".toList = '"' :: ' ' :: ("height".toList ++ ['=', '"']) := by decide
  have ending : "\">\n".toList = ['"', '>', '\n'] := by decide
  unfold header heading begun
  simp only [String.toList_append, opening, width, height, ending, chars, List.flatMap_cons, List.flatMap_nil,
    List.append_assoc, List.cons_append, List.nil_append, List.append_nil]

theorem drawOn_eq (calls : Picture Float) (doc : SvgDocument) :
    calls.drawOn doc = { doc with elements := doc.elements ++ calls.map SvgElement.ofCall } := by
  induction calls generalizing doc with
  | nil => rw [Picture.drawOn, List.map_nil, List.append_nil]
  | cons call rest ih =>
    rw [Picture.drawOn, ih]
    change { doc with elements := doc.elements ++ [SvgElement.ofCall call] ++ rest.map SvgElement.ofCall } = _
    rw [List.append_assoc]
    rfl

def lines (doc : SvgDocument) (bodies : List (List SvgToken)) : List SvgToken :=
  [.text "", .opening "svg" doc.heading] ++ bodies.flatMap (.text "\n" :: ·) ++ [.text "\n", .closing "svg"]

theorem heading_ofSize (size : Size Float) : SvgElement.Verbatim (ofSize size).heading := by
  apply heading_verbatim
  · dsimp only [ofSize]
    exact SvgElement.number_plain size.width
  · dsimp only [ofSize]
    exact SvgElement.number_plain size.height

theorem render_chars (doc : SvgDocument) :
    doc.render.toList = begun "svg" doc.heading ++ ['>'] ++ ['\n'] ++
      doc.elements.flatMap (fun element => element.render.toList) ++ '<' :: '/' :: ("svg".toList ++ ['>', '\n']) := by
  have ending : "</svg>\n".toList = '<' :: '/' :: ("svg".toList ++ ['>', '\n']) := by decide
  rw [render, String.toList_append, String.toList_append, header_chars, String.toList_join, List.flatMap_map, ending]
  simp only [List.append_assoc, List.cons_append, List.nil_append]

theorem reads_drawn {doc : SvgDocument} (blank : doc.elements = []) (readable : SvgElement.Readable doc.heading)
    (calls : Picture Float) :
    ∃ bodies, List.Forall₂ Stands calls bodies ∧
      Reads {} (calls.drawOn doc).render.toList ⟨doc.lines bodies, .text ['\n']⟩ := by
  obtain ⟨bodies, stand, told⟩ := calls_told calls
  refine ⟨bodies, stand, ?_⟩
  have isName : SvgElement.IsName "svg" := by decide
  have lineBreak : ∀ c ∈ ['\n'], c ≠ '<' ∧ c ≠ '>' := List.forall_mem_singleton.mpr (by decide)
  have opened : Reads {} _ _ := reads_opening [] isName (List.cons_ne_nil _ _) readable
  have begun := opened.append (reads_text lineBreak [])
  have whole := (begun.append (told _)).append (reads_closing ['\n'] isName)
  rw [drawOn_eq, render_chars]
  dsimp only
  rw [blank, List.nil_append, List.flatMap_map]
  exact whole

theorem stands_texts {call : DrawCall Float} {body : List SvgToken} (stands : Stands call body) :
    body.countP SvgToken.isText = if call.isText then 1 else 0 := by
  cases stands with
  | path path => simp [path, SvgToken.isText]
  | text => rfl

theorem lines_texts (doc : SvgDocument) {calls : Picture Float} {bodies : List (List SvgToken)}
    (stand : List.Forall₂ Stands calls bodies) :
    (doc.lines bodies).countP SvgToken.isText = 2 + calls.countP (!·.isText) + 2 * calls.countP (·.isText) := by
  have each : (bodies.flatMap (.text "\n" :: ·)).countP SvgToken.isText =
      calls.countP (!·.isText) + 2 * calls.countP (·.isText) := by
    induction stand with
    | nil => rfl
    | @cons call body rest bodies stands _ ih =>
      rw [List.flatMap_cons, List.countP_append, List.countP_cons, stands_texts stands, ih, List.countP_cons,
        List.countP_cons]
      cases call.isText <;> simp [SvgToken.isText] <;> omega
  have first : [.text "", .opening "svg" doc.heading].countP SvgToken.isText = 1 := rfl
  have last : [.text "\n", .closing "svg"].countP SvgToken.isText = 1 := rfl
  rw [lines, List.countP_append, List.countP_append, each, first, last]
  omega

-- A drawn document consists of a start tag, of one element for each call in the order of the calls, and of an end tag,
-- whatever the texts and the names of fonts; and texts that differ are told apart.
theorem drawOn_scan (size : Size Float) (calls : Picture Float) :
    (∃ bodies, List.Forall₂ Stands calls bodies ∧
      scan (calls.drawOn (ofSize size)).render = some ((ofSize size).lines bodies ++ [.text "\n"])) ∧
    SvgElement.Readable (ofSize size).heading ∧
    (calls.drawOn (ofSize size)).render.toList.count '<' =
      2 + calls.countP (!·.isText) + 2 * calls.countP (·.isText) ∧
    Function.Injective SvgElement.escape := by
  have readable := (heading_ofSize size).readable
  obtain ⟨bodies, stand, reads⟩ := reads_drawn rfl readable calls
  refine ⟨⟨bodies, stand, ?_⟩, readable, ?_, SvgElement.escape_injective⟩
  · unfold scan
    rw [reads]
  · have brackets := reads.texts
    rw [texts, lines_texts _ stand] at brackets
    simpa [texts] using brackets.symm

end SvgDocument

end Charting
