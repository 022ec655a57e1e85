import VideoProcess.Go.Effect
import VideoProcess.Python.Finalization

namespace VideoProcess

open Data List

/-! How the two engines finalize a job whose nodes have come to rest. -/

section

variable {definition : PipelineDefinition} {status : String → NodeStatus}

end

end VideoProcess
