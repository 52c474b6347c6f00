import Charting.Render

namespace Charting

structure SvgAttribute where
  name : String
  value : String

inductive SvgElement where
  | shape (tag : String) (attributes : List SvgAttribute)
  | text (attributes : List SvgAttribute) (content : String)

namespace SvgElement

def escapeChar : Char → List Char
  | '&' => "&amp;".toList
  | '<' => "&lt;".toList
  | '>' => "&gt;".toList
  | '"' => "&quot;".toList
  | '\'' => "&apos;".toList
  | c => [c]

def escape (text : String) : String :=
  String.ofList (text.toList.flatMap escapeChar)

def renderAttribute (a : SvgAttribute) : String :=
  " " ++ a.name ++ "=\"" ++ escape a.value ++ "\""

def renderAttributes (attributes : List SvgAttribute) : String :=
  String.join (attributes.map renderAttribute)

def render : SvgElement → String
  | .shape tag attributes => "<" ++ tag ++ renderAttributes attributes ++ "/>\n"
  | .text attributes content =>
    "<text" ++ renderAttributes attributes ++ ">" ++ escape content ++ "</text>\n"

end SvgElement

structure SvgDocument where
  width : String
  height : String
  elements : List SvgElement := []

namespace SvgDocument

def header (doc : SvgDocument) : String :=
  "<svg xmlns=\"http://www.w3.org/2000/svg\" viewBox=\"0 0 " ++ doc.width ++ " " ++ doc.height
    ++ "\" width=\"" ++ doc.width ++ "\" height=\"" ++ doc.height ++ "\">\n"

def render (doc : SvgDocument) : String :=
  doc.header ++ String.join (doc.elements.map SvgElement.render) ++ "</svg>\n"

def add (doc : SvgDocument) (element : SvgElement) : SvgDocument :=
  { doc with elements := doc.elements ++ [element] }

def cleared (doc : SvgDocument) : SvgDocument :=
  { doc with elements := [] }

end SvgDocument

end Charting
