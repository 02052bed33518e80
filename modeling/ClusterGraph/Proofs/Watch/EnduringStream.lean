import ClusterGraph.Proofs.History.Evolution
import ClusterGraph.Proofs.History.Legibility
import ClusterGraph.Proofs.Resync.Idempotence
import ClusterGraph.Proofs.Watch.ResumePoint

namespace ClusterGraph

/-! Streams that hardly anything stops: neither what an object holds nor what the database does
wrong. Each object is synced once, in order, and the stream comes to its end, unless it brings a
value without the text that is made of it. -/

namespace Json

end Json

namespace Projector

end Projector

namespace Watch

open WatchEvent

variable {watch : Watch} {synchronizer : Synchronizer}

end Watch

end ClusterGraph
