import Mailroom.Imap.Client
import Mailroom.Imap.Rehearsal
import Mailroom.LogSink
import Mailroom.Poller.Basic
import Mailroom.Poller.Probe
import Mailroom.Store
import Mailroom.Text.Ranges
import Mailroom.Proofs.Paths
import Mailroom.Proofs.Idle
import Mailroom.Proofs.Pervading
import Mailroom.Proofs.Following
import Mailroom.Proofs.Protocol
import Mailroom.Proofs.Order
import Mailroom.Proofs.Turns
import Mailroom.Proofs.Accesses
import Mailroom.Proofs.Accounting
import Mailroom.Proofs.Spools
import Mailroom.Proofs.Cleanup
import Mailroom.Proofs.Effects
import Mailroom.Proofs.AtLeastOnce
import Mailroom.Proofs.AtMostOnce
import Mailroom.Proofs.Conversation
import Mailroom.Proofs.SafeDeletion
import Mailroom.Proofs.Connections
import Mailroom.Proofs.Selection
import Mailroom.Proofs.Filling
import Mailroom.Proofs.Handling
import Mailroom.Proofs.Scenes
import Mailroom.Proofs.Keeping
import Mailroom.Proofs.Contents
import Mailroom.Proofs.Uses
import Mailroom.Proofs.Rollover
import Mailroom.Proofs.Aloof
import Mailroom.Proofs.Twins
import Mailroom.Proofs.Spilling
import Mailroom.Proofs.Agreement
import Mailroom.Proofs.Comparing
import Mailroom.Proofs.Isolation
import Mailroom.Proofs.Looping
import Mailroom.Proofs.Chronicle
import Mailroom.Proofs.Bookkeeping
import Mailroom.Proofs.Stopping
import Mailroom.Proofs.Postbox
import Mailroom.Proofs.Postmaster
import Mailroom.Proofs.Moving
import Mailroom.Proofs.Arguments
import Mailroom.Proofs.CommandLines
import Mailroom.Proofs.Utf8
import Mailroom.Proofs.Searching
import Mailroom.Proofs.Pending
import Mailroom.Proofs.Happenings
import Mailroom.Proofs.Heeding
import Mailroom.Proofs.Interrupting
import Mailroom.Proofs.Lifecycle
import Mailroom.Proofs.Retrying
import Mailroom.Proofs.Complaints
import Mailroom.Proofs.Naming
import Mailroom.Proofs.Pacing
import Mailroom.Proofs.DigestSizes
import Mailroom.Proofs.Accepting
