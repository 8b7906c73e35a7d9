import Messanger.Library.Table
import Messanger.Library.Session
import Messanger.Library.Coalesce
import Messanger.Messages.Models
import Messanger.Store
import Messanger.Chats.ServicesCore
import Messanger.Chats.CommandsCore
import Messanger.Chats.Roster
import Messanger.Chats.MemberCount
import Messanger.Messages.CommandsCore
import Messanger.Messages.QueriesCore
import Messanger.Messages.AttachmentsCore
import Messanger.Requests
import Messanger.Footprint
import Messanger.Chats.Effects
import Messanger.Chats.MemberEffects
import Messanger.Chats.Restrictions
import Messanger.Chats.Ownership
import Messanger.Chats.OwnershipRace
import Messanger.Messages.MessageSeq
import Messanger.Messages.AttachmentStatus
import Messanger.Messages.MessageEffects
import Messanger.Messages.Posting
import Messanger.Messages.Replies
import Messanger.Messages.AttachmentClaims
import Messanger.Messages.Deletion
import Messanger.Messages.Outsiders
import Messanger.Messages.Forwarding
import Messanger.Reads.ReadsCore
import Messanger.Reads.ReadCursors
import Messanger.Library.Isolation
import Messanger.Library.Uuid
import Messanger.Library.Paging
import Messanger.Reactions.Counters
import Messanger.Reactions.Limits
import Messanger.Reactions.Snapshots
import Messanger.Websockets.Deliveries
import Messanger.Websockets.Removal
import Messanger.Websockets.Registry
import Messanger.Websockets.Routes
import Messanger.Websockets.Subscriptions
import Messanger.Websockets.History
import Messanger.Websockets.Replay
import Messanger.Library.Tasks
import Messanger.Core.Idempotency
import Messanger.Library.Latest
import Messanger.Library.Journal
import Messanger.Library.Pact
import Messanger.Library.Keyset
import Messanger.Privacy.Convergence
import Messanger.Privacy.Consumers
import Messanger.Privacy.Mirror
import Messanger.Chats.DirectChats
import Messanger.Chats.Usernames
import Messanger.Chats.Creation
import Messanger.Chats.PinnedChats
import Messanger.Messages.Search
import Messanger.Websockets.Typing
import Messanger.Chats.ChatList
import Messanger.Statements
import Messanger.Chats.InviteUsage
import Messanger.Chats.JoinRequests
import Messanger.Library.Processes
import Messanger.Auth.Models
import Messanger.Auth.RolesCore
import Messanger.Auth.RoleEffects
import Messanger.Auth.SecurityLevels
import Messanger.Auth.Grants
import Messanger.Auth.CommandsCore
import Messanger.Auth.UserRevocation
import Messanger.Auth.OneTimeKeys
import Messanger.Auth.Passwords
import Messanger.Auth.RefreshTokens
import Messanger.Auth.OAuthStates
import Messanger.Auth.SessionEnds
import Messanger.Library.Tallies
import Messanger.Library.Turns
import Messanger.Library.Reciprocal
import Messanger.Library.Chronicle
import Messanger.Library.RowLocks
import Messanger.Contacts.Models
import Messanger.Contacts.CommandsCore
import Messanger.Contacts.Transactions
import Messanger.Contacts.Effects
import Messanger.Contacts.Batches
import Messanger.Contacts.Mutual
import Messanger.Contacts.Projections
import Messanger.Contacts.Capacity
import Messanger.Contacts.BlockLists
import Messanger.Contacts.BlockCache
import Messanger.Contacts.QueriesCore
import Messanger.Contacts.DeltaSync
import Messanger.Contacts.Quotas
import Messanger.Profiles.Models
import Messanger.Profiles.CommandsCore
import Messanger.Profiles.Effects
import Messanger.Profiles.Commits
import Messanger.Profiles.MainPhoto
import Messanger.Profiles.Snapshots
import Messanger.Privacy.DirectPeer
import Messanger.Chats.Permissions
import Messanger.Core.Jpeg
import Messanger.Core.JpegStrip
import Messanger.Library.Evaluation
import Messanger.Reactions.Replacing
import Messanger.Library.Integers
import Messanger.Messages.SharedMedia
import Messanger.Library.Slices
import Messanger.Notifications.Devices
import Messanger.Notifications.TokenRegistry
import Messanger.Library.Gather
import Messanger.Websockets.GatewayBatches
import Messanger.Library.Parts
import Messanger.Library.Custody
import Messanger.Avatars.Models
import Messanger.Avatars.CommandsCore
import Messanger.Avatars.Objects
import Messanger.Avatars.Upkeep
import Messanger.Avatars.Statements
import Messanger.Avatars.Switching
import Messanger.Avatars.NamedFiles
import Messanger.Library.Announcing
import Messanger.ProfileCache.Models
import Messanger.ProfileCache.QueriesCore
import Messanger.ProfileCache.CommandsCore
import Messanger.ProfileCache.Announcements
import Messanger.ProfileCache.Views
import Messanger.ProfileCache.Freshness
import Messanger.Messages.Context
import Messanger.Messages.Uploads
import Messanger.Reads.ReadBadges
import Messanger.Reads.ReadMarks
import Messanger.Auth.Usernames
import Messanger.Chats.IdempotentRequests
import Messanger.Library.Cooldown
import Messanger.Library.Walking
import Messanger.Messages.Pins
import Messanger.Messages.SlowMode
import Messanger.Websockets.Fanout
import Messanger.Messages.Origins
import Messanger.Core.Listing
