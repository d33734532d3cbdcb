import Mosaic.CommandLine
import Mosaic.Main
import Mosaic.Report.ProgressView
import Mosaic.Web.Status
import Mosaic.Text.Canonical
import Mosaic.Text.Normal
import Mosaic.Picture.Bitmap
import Mosaic.Picture.Checksum
import Mosaic.Picture.Inflate
import Mosaic.Picture.Png
import Mosaic.Picture.Lzw
import Mosaic.Picture.Tiff
import Mosaic.Proofs.StreamReading
import Mosaic.Proofs.Stripes
import Mosaic.Proofs.Compositing
import Mosaic.Proofs.FreshJob
import Mosaic.Proofs.EventLoop
import Mosaic.Proofs.ExactCut
import Mosaic.Proofs.ArtifactReading
import Mosaic.Proofs.ArtifactText
import Mosaic.Proofs.DrawnRegion
import Mosaic.Proofs.Completion
import Mosaic.Proofs.InstalledOutput
import Mosaic.Proofs.WholeCanvas
import Mosaic.Proofs.SessionCalls
import Mosaic.Proofs.ViewConvergence
import Mosaic.Proofs.EventDraining
import Mosaic.Proofs.LongLines
import Mosaic.Proofs.Characters
import Mosaic.Proofs.RegularExpression
import Mosaic.Proofs.MarkerExpression
import Mosaic.Proofs.MarkerMatches
import Mosaic.Proofs.Directories
import Mosaic.Proofs.Footprint
import Mosaic.Proofs.Clipping
import Mosaic.Proofs.KeptLine
import Mosaic.Proofs.PreviewFiles
import Mosaic.Proofs.FormatCode
import Mosaic.Proofs.SettingsValidation
import Mosaic.Proofs.ArtifactContent
import Mosaic.Proofs.Segments
import Mosaic.Proofs.WhiteSpace
import Mosaic.Proofs.LastLine
