import ArtifactPromotion.Core.IncrementalHash
import ArtifactPromotion.Distributed.BoundedReading
import ArtifactPromotion.Distributed.CatchUp
import ArtifactPromotion.Distributed.ConnectionDiscipline
import ArtifactPromotion.Distributed.ConnectionRuns
import ArtifactPromotion.Distributed.Fencing
import ArtifactPromotion.Distributed.Incarnations
import ArtifactPromotion.Distributed.LegibleAnswers
import ArtifactPromotion.Distributed.Registrations
import ArtifactPromotion.Distributed.RemoteTrust
import ArtifactPromotion.Distributed.Shutdown
import ArtifactPromotion.Distributed.Sockets
import ArtifactPromotion.Distributed.StateFileRuns
import ArtifactPromotion.Distributed.Submissions
import ArtifactPromotion.Domain.GraphBounds
import ArtifactPromotion.Domain.GraphForms
import ArtifactPromotion.Domain.PolicyDigests
import ArtifactPromotion.Engine.Accounting
import ArtifactPromotion.Engine.Attribution
import ArtifactPromotion.Engine.Authority
import ArtifactPromotion.Engine.CommitResults
import ArtifactPromotion.Engine.EvidenceBounds
import ArtifactPromotion.Engine.GateCounts
import ArtifactPromotion.Engine.PromoteCalls
import ArtifactPromotion.Engine.Publications
import ArtifactPromotion.Engine.ReferencePipeline
import ArtifactPromotion.Engine.Retention
import ArtifactPromotion.Engine.RetentionBounds
import ArtifactPromotion.Engine.Rollback
import ArtifactPromotion.Engine.SelfChecks
import ArtifactPromotion.Engine.Sequences
import ArtifactPromotion.Engine.Successions
import ArtifactPromotion.Persist.PolicyRereads
import ArtifactPromotion.Persist.RepeatedKeys
