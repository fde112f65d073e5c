import GraphNight.Lib.Str
import GraphNight.Lib.Regex
import GraphNight.Lib.Fault
import GraphNight.Lib.KeyedList
import GraphNight.Lib.Bfs
import GraphNight.Lib.BfsOrder
import GraphNight.Lib.Lru
import GraphNight.Lib.Condition
import GraphNight.Lib.Page
import GraphNight.Lib.Lexer
import GraphNight.Lib.Predicate
import GraphNight.Lib.Joined
import GraphNight.Lib.Codec
import GraphNight.Lib.Like
import GraphNight.Lib.SelfLock
import GraphNight.Core.Value
import GraphNight.Core.Models
import GraphNight.Core.RustStd
import GraphNight.Core.QueryJson
import GraphNight.Core.JsonText
import GraphNight.Core.Secrets
import GraphNight.Core.Security
import GraphNight.Core.Formula
import GraphNight.Core.FunctionCalls
import GraphNight.Core.Join
import GraphNight.Core.JoinScope
import GraphNight.Core.JoinOrder
import GraphNight.Core.JoinPaths
import GraphNight.Sql.Plan
import GraphNight.Sql.Dialects
import GraphNight.Sql.Generator
import GraphNight.Sql.WhereClause
import GraphNight.Sql.Paging
import GraphNight.Sql.Cache
import GraphNight.Sql.Engine
import GraphNight.Sql.Footprint
import GraphNight.Sql.EngineRuns
import GraphNight.Sql.CacheKeys
import GraphNight.Sql.Statement
import GraphNight.Sql.DeclaredJoins
import GraphNight.Sql.Names
import GraphNight.Sql.FieldOwners
import GraphNight.Sql.CallText
import GraphNight.Sql.OnText
import GraphNight.Sql.TimeShift
import GraphNight.Sql.FormulaText
import GraphNight.Sql.Scope
import GraphNight.Sql.FieldColumns
import GraphNight.Sql.Tokens
import GraphNight.Sql.Sources
import GraphNight.Sql.FilterMeaning
import GraphNight.Sql.Unjoined
import GraphNight.Sql.JoinAnswers
import GraphNight.Sql.Drivers
import GraphNight.Sql.Registrations
import GraphNight.Sql.Introspection
import GraphNight.Sql.ImportedFields
import GraphNight.Runtime.Governance
import GraphNight.Runtime.ForcedFilters
import GraphNight.Runtime.RowCap
import GraphNight.Runtime.PageRuns
import GraphNight.Runtime.Access
import GraphNight.Runtime.JoinedTables
import GraphNight.Runtime.Masking
import GraphNight.Storage.Backend
import GraphNight.Storage.Yaml
import GraphNight.Storage.Sqlite
import GraphNight.Storage.SqliteRuns
import GraphNight.Storage.YamlFiles
import GraphNight.Storage.FailedWrites
import GraphNight.Storage.MemorySearch
import GraphNight.Storage.Scan
import GraphNight.Storage.Catalogue
import GraphNight.Storage.YamlTasks
import GraphNight.Storage.YamlRestore
import GraphNight.Storage.Tantivy
import GraphNight.Runtime.Discovery
import GraphNight.Runtime.MultiStage
import GraphNight.Runtime.AuditTrail
import GraphNight.Runtime.Memory
import GraphNight.Runtime.Tools
import GraphNight.Runtime.Suggest
import GraphNight.Runtime.Embedding
import GraphNight.Runtime.Catalog
import GraphNight.Runtime.References
import GraphNight.GraphQl.DatasourceRuns
import GraphNight.Runtime.AgentRuns
import GraphNight.Runtime.AgentAnswers
import GraphNight.Runtime.SelectedItems
import GraphNight.Runtime.StageOrder
import GraphNight.Runtime.StageReference
import GraphNight.Surface.Agreement
import GraphNight.Runtime.Retrieval
import GraphNight.Runtime.MutationGate
import GraphNight.GraphQl.Resolvers
import GraphNight.GraphQl.Governed
import GraphNight.GraphQl.Catalog
import GraphNight.GraphQl.Tenancy
import GraphNight.GraphQl.Anonymous
import GraphNight.GraphQl.Mutations
import GraphNight.GraphQl.EngineSync
import GraphNight.Lib.Calendar
import GraphNight.Lib.FixedWidth
import GraphNight.Sql.TimeBuckets
import GraphNight.Lib.Affix
import GraphNight.Core.SecretRefs
import GraphNight.Lib.Utf8
import GraphNight.Core.Masks
import GraphNight.Lib.TokenBucket
import GraphNight.Server.AuthConfig
import GraphNight.Server.RateLimit
import GraphNight.Runtime.OpenAiEmbeddings
import GraphNight.Runtime.EmbedCache
import GraphNight.Sql.PrimaryKeys
import GraphNight.Sql.CatalogueStatements
import GraphNight.Runtime.FilterTexts
import GraphNight.Runtime.FilterValues
import GraphNight.Runtime.AgentFormulas
import GraphNight.Runtime.ExampleQueries
import GraphNight.Sql.QuotedTokens
import GraphNight.Sql.CallerNames
import GraphNight.Sql.Placeholders
import GraphNight.Runtime.Transport
import GraphNight.Runtime.RankFusion
import GraphNight.Lib.EditDistance
import GraphNight.Runtime.ClosestMatches
import GraphNight.Runtime.McpGate
import GraphNight.Sql.PlanRuns
import GraphNight.Sql.ResultRuns
import GraphNight.Sql.QueryAnswers
import GraphNight.Sql.FromReading
import GraphNight.Server.Oidc
import GraphNight.Core.JoinConditions
import GraphNight.Sql.InferredModels
