import Charting.Main
import Charting.Proofs.CacheHistory
import Charting.Proofs.LabelRoom
import Charting.Proofs.Refusals
import Charting.Proofs.Sheet
import Charting.Proofs.SurfaceLife
import Charting.Proofs.TooltipContent
import Charting.Proofs.VirtualData
import Charting.Proofs.UnreadValues
import Charting.Proofs.Highlight
import Charting.Proofs.Escaping
import Charting.Proofs.SkippedFailures
import Charting.Proofs.SvgReading
import Charting.Proofs.RangeEnds
import Charting.Proofs.Gridlines
import Charting.Proofs.RawReplies
import Charting.Proofs.ReadingBack
import Charting.Proofs.PixelGrid
import Charting.Proofs.Fetching
import Charting.Proofs.LegendRows
import Charting.Proofs.NearestVertex
import Charting.Proofs.Boxes
import Charting.Proofs.Stacks
import Charting.Proofs.HueRounds
import Charting.Proofs.Slices
import Charting.Proofs.EqualGlyphs
import Charting.Proofs.WithinWords
