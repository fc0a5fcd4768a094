import ReCasaOS.Smb.Binding
import ReCasaOS.Smb.ServerIdentity
import ReCasaOS.Smb.Provision
import ReCasaOS.Smb.Backup
import ReCasaOS.PublicFiles.Slots
import ReCasaOS.PublicFiles.Progress
import ReCasaOS.PublicFiles.Portal
import ReCasaOS.FileSecurity.UploadSpace
import ReCasaOS.FileSecurity.RecoveryInventory
import ReCasaOS.FileSecurity.HeldTree
import ReCasaOS.FileSecurity.BatchRemoval
import ReCasaOS.Files.Accounting
import ReCasaOS.Files.DirectoryPage
import ReCasaOS.Files.NamingRoot
import ReCasaOS.Files.Queue
import ReCasaOS.Files.Batch
import ReCasaOS.Uploads.Geometry
import ReCasaOS.Uploads.Registry
import ReCasaOS.Samba.ConfigCas
import ReCasaOS.OAuth.ProviderConfig
import ReCasaOS.OAuth.TokenRuns
import ReCasaOS.Ssh.Tickets
import ReCasaOS.Cloud.Settle
import ReCasaOS.FileDrop.Hub
import ReCasaOS.Samba.ConnectionMount
import ReCasaOS.Samba.LegacyConfig
import ReCasaOS.Samba.Probe
