import OneVoice.Proof.Orchestrator.Budget
import OneVoice.Proof.Orchestrator.Resolved
import OneVoice.Proof.Resume.Offered
import OneVoice.Proof.Resume.StoredPolicy
import OneVoice.Proof.Resume.Routing
import OneVoice.Proof.Hitl.Lifecycle
import OneVoice.Proof.Hitl.Policy
import OneVoice.Proof.Hitl.SingleAuthor
import OneVoice.Proof.Hitl.Edits
import OneVoice.Proof.Hitl.Resolve
import OneVoice.Proof.Access.LastOwner
import OneVoice.Proof.Access.Escalation
import OneVoice.Proof.Access.Inviters
import OneVoice.Proof.Access.Coherence
import OneVoice.Proof.Billing.Conservation
import OneVoice.Proof.Billing.DailySpend
import OneVoice.Proof.RateLimit.Reservation
import OneVoice.Proof.Llm.Failover
import OneVoice.Proof.Review.Published
import OneVoice.Proof.Review.Recorded
import OneVoice.Proof.Review.Drafts
import OneVoice.Proof.ChatTurn.Exclusive
import OneVoice.Proof.ChatTurn.Sequential
import OneVoice.Proof.ChatTurn.ResumeRecord
import OneVoice.Proof.ChatTurn.DispatchKeys
import OneVoice.Proof.SseCounter.Cap
import OneVoice.Proof.Posts.Queue
import OneVoice.Proof.Agents.Communities
import OneVoice.Proof.Agents.Expiry
import OneVoice.Proof.Agents.Channels
import OneVoice.Proof.Agents.ReadBack
import OneVoice.Proof.Review.Identity
import OneVoice.Proof.Review.Bulk
import OneVoice.Proof.Review.Statistics
import OneVoice.Proof.Review.Sla
import OneVoice.Proof.Review.Feedback
import OneVoice.Proof.Platform.Schedule
import OneVoice.Proof.Search
import OneVoice.Proof.Orchestrator.DenyList
import OneVoice.Proof.Agents.Pollers
import OneVoice.Proof.Integrations.SingleFlight
import OneVoice.Proof.Review.Skipped
import OneVoice.Proof.Review.Consent
import OneVoice.Proof.OwnerLink.Callback
import OneVoice.Proof.Users.RefreshTokens
import OneVoice.Proof.Users.EmailVerification
import OneVoice.Proof.Users.Login
import OneVoice.Proof.Security.Cards
import OneVoice.Proof.Security.Redact
import OneVoice.Proof.Deletion.Grace
import OneVoice.Proof.Posts.Confirmed
import OneVoice.Proof.Tasks.Retry
import OneVoice.Proof.Tasks.Containers
import OneVoice.Proof.Email.Delivery
