import EdgeNalEmbassy.Pool
import EdgeNalEmbassy.PoolRun
import EdgeNalEmbassy.Net
import EdgeNalEmbassy.Close
import EdgeNalEmbassy.Socket
import EdgeNalEmbassy.Owned
import EdgeNalEmbassy.Lifecycle
import EdgeNalEmbassy.Capacity
import EdgeNalEmbassy.Ops
import EdgeNalEmbassy.Contract
import EdgeNalEmbassy.Release
