import DbxSpec.Ai.Compaction
import DbxSpec.Ai.ConfirmedWrite
import DbxSpec.Ai.ToolApproval
import DbxSpec.Compare.FetchExact
import DbxSpec.Compare.Sampling
import DbxSpec.Compare.Synchronized
import DbxSpec.Cypher.Soundness
import DbxSpec.Delimited.Guard
import DbxSpec.Delimited.RoundTrip
import DbxSpec.Grid.LongText
import DbxSpec.Grid.StatementSplit
import DbxSpec.Import.Execution
import DbxSpec.Import.StreamDecoder
import DbxSpec.Mcp.Migration
import DbxSpec.Mcp.ProjectionSafety
import DbxSpec.Mongo.ArchivePack
import DbxSpec.Query.TwoPhaseCommit
import DbxSpec.Redis.ClusterShortcut
import DbxSpec.Redis.CommandArgv
import DbxSpec.Schema.Order
import DbxSpec.Schema.Shards
import DbxSpec.Sql.RangesAgree
import DbxSpec.Sql.SplitterChunks
import DbxSpec.Sql.SplitterCoverage
import DbxSpec.Sync.NonInterference
import DbxSpec.TableImport.Execute
import DbxSpec.Transfer.PgArray
