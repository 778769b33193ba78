import AccessGrants.Model.Grant
import AccessGrants.Model.Session
import AccessGrants.Model.Txn
import AccessGrants.Model.Bearer
import AccessGrants.Model.Statement
import AccessGrants.Model.Create
import AccessGrants.Model.Manage
import AccessGrants.Model.Run
import AccessGrants.Model.Token
import AccessGrants.Model.Live
import AccessGrants.Model.LocalEngine
import AccessGrants.Analysis.Codec
import AccessGrants.Analysis.Loops
import AccessGrants.Analysis.Create
import AccessGrants.Analysis.Revoke
import AccessGrants.Analysis.Purge
import AccessGrants.Analysis.Preview
import AccessGrants.Analysis.KeyRecord
import AccessGrants.Analysis.Lifecycle
import AccessGrants.Analysis.Frame
import AccessGrants.Analysis.Stored
import AccessGrants.Analysis.Audit
import AccessGrants.Analysis.Failure
import AccessGrants.Analysis.Repeat
import AccessGrants.Analysis.TwoRuns
import AccessGrants.Analysis.Isolation
import AccessGrants.Analysis.Secrecy
import AccessGrants.Analysis.Token
import AccessGrants.Analysis.Live
import AccessGrants.Analysis.LocalEngine
