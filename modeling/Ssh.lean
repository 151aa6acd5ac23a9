import Ssh.Error
import Ssh.Sftp.Remote
import Ssh.Sftp.Read
import Ssh.Sftp.Write
import Ssh.Sftp.Seek
import Ssh.Session.State
import Ssh.Session.Lock
import Ssh.Sftp.Directory
import Ssh.KnownHost
import Ssh.Ownership
import Ssh.Sftp.Openmode
import Ssh.Sftp.Stream
