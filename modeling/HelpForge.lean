import HelpForge.Org.Authority
import HelpForge.Auth.Logout
import HelpForge.Auth.UserCache
import HelpForge.Org.Revocation
import HelpForge.Chatbot.ClientAddress
import HelpForge.Chatbot.Windows
import HelpForge.Chatbot.Agent.Tenant
import HelpForge.Chatbot.Agent.Delivery
import HelpForge.Chatbot.Agent.Budget
import HelpForge.Chatbot.Chat.Remembers
import HelpForge.Chatbot.Chat.Guarded
import HelpForge.Chatbot.Memory.Concurrent
import HelpForge.Chatbot.Rag.ColdStart
import HelpForge.Chatbot.Widget.FreshStart
import HelpForge.Chatbot.Widget.Updates
import HelpForge.Chatbot.Widget.Stream
import HelpForge.Chatbot.Chat.Keyspace
import HelpForge.Chatbot.Rag.RoundTrip
import HelpForge.Org.SoleOwner
import HelpForge.Tickets.Caps
import HelpForge.Tickets.Gated
import HelpForge.Bridge.Circuit
import HelpForge.Config.Breaker
import HelpForge.Scraper.Embedded
import HelpForge.Automation.Lock
import HelpForge.Automation.Confidence
import HelpForge.Automation.Cutoff
import HelpForge.Automation.SmartAssign
import HelpForge.Org.Deletion
import HelpForge.Org.RoleNames
import HelpForge.Tickets.Creation
import HelpForge.Auth.Atomicity
import HelpForge.Http.Validation
import HelpForge.Http.Tenants
import HelpForge.Tickets.Noninterference
import HelpForge.Scraper.Literals
import HelpForge.Scraper.Repeats
import HelpForge.Chatbot.Vectors.Reingestion
import HelpForge.Automation.DeadLetters
import HelpForge.Scraper.Retention
import HelpForge.Notifications.Audience
import HelpForge.Notifications.Realtime
import HelpForge.Automation.Misread
import HelpForge.Tickets.Confidentiality
import HelpForge.Chatbot.Rag.Routing
import HelpForge.Chatbot.InputCheck
import HelpForge.Chatbot.Widget.PageContext
import HelpForge.Chatbot.Rag.Bounded
import HelpForge.Chatbot.Vectors.Embedding
import HelpForge.Chatbot.Vectors.Completeness
import HelpForge.Chatbot.Refusals
import HelpForge.Chatbot.Quota
import HelpForge.Chatbot.Conversation.Scoring
import HelpForge.Chatbot.Agent.Truncation
import HelpForge.Chatbot.Chat.Rendering
import HelpForge.Chatbot.Agent.Extraction
import HelpForge.Chatbot.Agent.Traces
import HelpForge.Chatbot.Rag.FaqRoundTrip
import HelpForge.Chatbot.Conversation.Persistence
import HelpForge.Chatbot.Conversation.Detection
