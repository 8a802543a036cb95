import Playscript.Session
import Playscript.Playback.Host
import Playscript.Playback.SettingsReading
import Playscript.Proofs.WellFormed
import Playscript.Proofs.Finishing
import Playscript.Proofs.Looping
import Playscript.Proofs.Pacing
import Playscript.Proofs.Typing
import Playscript.Proofs.Parsing
import Playscript.Proofs.Decomposition
import Playscript.Proofs.Issues
import Playscript.Proofs.Literals
import Playscript.Proofs.Reporting
import Playscript.Proofs.Telling
import Playscript.Proofs.Firing
import Playscript.Proofs.Opening
import Playscript.Proofs.Performing
import Playscript.Proofs.Quoting
import Playscript.Proofs.Verbatim
import Playscript.Proofs.Numbering
import Playscript.Proofs.Grouping
import Playscript.Proofs.Compiling
import Playscript.Proofs.Locating
import Playscript.Proofs.Forgetting
import Playscript.Proofs.Heights
import Playscript.Proofs.Corresponding
import Playscript.Proofs.Joining
import Playscript.Proofs.Columns
import Playscript.Proofs.LineEndings
import Playscript.Proofs.Offences
import Playscript.Proofs.Lowering
import Playscript.Proofs.Frames
import Playscript.Proofs.Rereading
import Playscript.Proofs.Reckoning
import Playscript.Proofs.Assigning
import Playscript.Proofs.Equating
import Playscript.Proofs.Failing
import Playscript.Proofs.Escapes
import Playscript.Proofs.Displaying
import Playscript.Proofs.Covering
import Playscript.Proofs.Beginnings
import Playscript.Proofs.Lines
import Playscript.Proofs.Cursors
import Playscript.Proofs.Catalogues
