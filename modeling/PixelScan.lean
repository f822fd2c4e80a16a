import PixelScan.Main
import PixelScan.Proofs.Printing
import PixelScan.Proofs.Extension
import PixelScan.Proofs.Progress
import PixelScan.Proofs.Resumption
import PixelScan.Proofs.Retrying
import PixelScan.Proofs.Narration
import PixelScan.Proofs.Lines
import PixelScan.Proofs.Caret
import PixelScan.Proofs.Layout
import PixelScan.Proofs.Delivery
import PixelScan.Proofs.Listing
import PixelScan.Proofs.Offsets
import PixelScan.Proofs.Picture
import PixelScan.Proofs.Extracting
import PixelScan.Proofs.Messages
