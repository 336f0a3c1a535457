import OatImage.Dex.Session
import OatImage.Import
import OatImage.Log.Logger
import OatImage.Log.Narration
import OatImage.Main
import OatImage.Terminal.Call
import OatImage.Proofs.BaseAddresses
import OatImage.Proofs.ClassAttribution
import OatImage.Proofs.Confinement
import OatImage.Proofs.ElfRereading
import OatImage.Proofs.LoadingOrder
import OatImage.Proofs.LocationSearches
import OatImage.Proofs.LogLines
import OatImage.Proofs.MethodRuns
import OatImage.Proofs.MethodSearches
import OatImage.Proofs.RecordReach
import OatImage.Proofs.Signatures
import OatImage.Proofs.StoreReading
import OatImage.Proofs.StringBases
import OatImage.Proofs.StringUnits
import OatImage.Proofs.Truncation
import OatImage.Proofs.Uleb128Reads
import OatImage.Proofs.WalkBounds
