import PasswordRotation.Db
import PasswordRotation.Json
import PasswordRotation.SecretsManager
import PasswordRotation.Secret
import PasswordRotation.Mysql.Client
import PasswordRotation.Mysql.Setter
import PasswordRotation.Mysql.Targets
import PasswordRotation.Mysql.Pool
import PasswordRotation.Mysql.Snapshot
import PasswordRotation.Mysql.Schedule
import PasswordRotation.Mysql.Servers
import PasswordRotation.Mysql.Serial
import PasswordRotation.Mysql.Parallel
import PasswordRotation.Mysql.Fleet
import PasswordRotation.Rotator
import PasswordRotation.CreateSecret
import PasswordRotation.Calls
import PasswordRotation.Rotation
import PasswordRotation.Protocol
import PasswordRotation.Invariant
import PasswordRotation.Success
import PasswordRotation.Interleaving
