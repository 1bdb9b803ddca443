import FeathrRegistry.Model
import FeathrRegistry.Store
import FeathrRegistry.Create
import FeathrRegistry.Bfs
import FeathrRegistry.Delete
import FeathrRegistry.Run
import FeathrRegistry.Names
import FeathrRegistry.Graph
import FeathrRegistry.Conflict
import FeathrRegistry.Atomicity
import FeathrRegistry.RawSql
import FeathrRegistry.Api
import FeathrRegistry.Typing
import FeathrRegistry.Project
import FeathrRegistry.Traversal
import FeathrRegistry.SafeDelete
import FeathrRegistry.Lineage
import FeathrRegistry.Postcondition
import FeathrRegistry.Search
import FeathrRegistry.Rbac.Sql
import FeathrRegistry.Rbac.UserRoles
import FeathrRegistry.Rbac.Invariants
import FeathrRegistry.Rbac.Injection
import FeathrRegistry.Rbac.Queries
import FeathrRegistry.Db.Connection
import FeathrRegistry.Rbac.Delivery
import FeathrRegistry.Db.ConnStr
import FeathrRegistry.Rbac.Auth
import FeathrRegistry.Services
