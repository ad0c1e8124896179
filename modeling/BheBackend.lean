import BheBackend.Types
import BheBackend.Config
import BheBackend.Node
import BheBackend.Schedule
import BheBackend.Races
import BheBackend.Coinbase
import BheBackend.Serial
import BheBackend.Lifecycle
import BheBackend.ApiBackend
