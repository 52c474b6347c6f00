import Charting.Chart.Operation
import Charting.Svg.Drawing

namespace Charting

namespace Demo

structure Forecast where

instance : Supplier Forecast where
  fetch _ first _ buffer := fun forecast =>
    ((buffer.mapIdx fun i _ => Int32.ofNat (10 + 4 * (first + i)), true), forecast)

def host : Host where
  Length := Float
  Source := Forecast
  Measurer := Heuristic
  Tooltip := TrackingTooltip Float
  Printer := SvgDocument
  Surface := SvgDocument
  Service := SvgScreen

def directory : String :=
  "mctrl_chart_demo_out"

def months : Nat :=
  6

def atEnd : Nat :=
  18446744073709551615

def stored : List (String × Array Int32) :=
  [("Apples", #[12, 19, 25, 31, 28, 35]), ("Pears", #[8, 11, 9, 14, 21, 18]), ("Plums", #[-3, 4, 10, 7, 12, 16])]

def dataOperations : List (Operation host) :=
  (stored.zipIdx.flatMap fun ((name, values), place) =>
    [.insertDataSet atEnd (.stored values), .setDataSetLegend place (some name)])
  ++ [.insertDataSet atEnd (.virtual months), .setDataSetLegend stored.length (some "Forecast"),
    .setDataSetColor stored.length (some (.rgb 0x80 0x80 0x80))]

def axisOperations (kind : Kind) : List (Operation host) :=
  [.setAxisName .primary (some "Month"), .setAxisName .secondary (some "Units")]
    ++ if kind = .pie then [.setExponent .primary (-1)] else []

def chart (kind : Kind) : Chart host :=
  let config : Config Float := { Config.standard with textStyle := { size := 11 } }
  let empty : Chart host := .withConfig {} { kind, tooltips := true } config
  empty.run ([.setTitle "Quarterly sales", .setSupplier (some {})] ++ dataOperations ++ axisOperations kind)

def frame (kind : Kind) : Option String :=
  let c : Chart host := (chart kind).resize (Size.mk (α := Float) 480.0 320.0)
  let (layout, c) := c.layOut
  ((c.pointerMove layout.body.center).paint 0).service.frame

def printed : String :=
  let c : Chart host := (chart (.area true)).resize (Size.mk (α := Float) 640.0 400.0)
  (c.print (SvgDocument.ofSize c.size)).1.render

def files : List (String × String) :=
  (Kind.all.filterMap fun kind => (frame kind).map fun text => (kind.name ++ ".svg", text))
    ++ [("printed.svg", printed)]

def report (name : String) : String :=
  "wrote " ++ directory ++ "/" ++ name

end Demo

end Charting
