import Ebuild.Main
import Ebuild.Store
import Ebuild.Proofs.Load
import Ebuild.Proofs.Package
import Ebuild.Proofs.Atom.Index
import Ebuild.Proofs.Atom.OwnReading
import Ebuild.Proofs.Version.Letter
import Ebuild.Proofs.Version.Lexicographic
import Ebuild.Proofs.Version.Star
import Ebuild.Proofs.Version.Ties
import Ebuild.Proofs.Rules.Forms
import Ebuild.Proofs.Visibility.LineSets
import Ebuild.Proofs.ProfileLink
import Ebuild.Proofs.Settings
import Ebuild.Proofs.Rules.Files
import Ebuild.Proofs.Rules.Lines
import Ebuild.Proofs.Version.Pieces
import Ebuild.Proofs.Version.Bytes
import Ebuild.Proofs.Atom.VersionText
import Ebuild.Proofs.Version.SlotText
import Ebuild.Proofs.Version.NormalForm
