import ClaudeAgent.Registry
import ClaudeAgent.Discovery
import ClaudeAgent.Dispatch
import ClaudeAgent.Receiver
import ClaudeAgent.Steps
import ClaudeAgent.Buffers
import ClaudeAgent.Coordinator
import ClaudeAgent.LazyInit
import ClaudeAgent.Query
import ClaudeAgent.ToolResults
import ClaudeAgent.Isolation
import ClaudeAgent.EagerInit
import ClaudeAgent.Restart
import ClaudeAgent.Lifecycle
