import SensCord.Python
import SensCord.Utf8
import SensCord.Version
import SensCord.PropertyUtils
import SensCord.PropertyUtils.Reparse
import SensCord.TemporalContrast.Buffer
import SensCord.TemporalContrast.Parser
import SensCord.TemporalContrast.Safety
import SensCord.TemporalContrast.Grammar
import SensCord.TemporalContrast.Iteration
import SensCord.Serialize.Value
import SensCord.Serialize.Msgpack
import SensCord.Serialize.Structure
import SensCord.Serialize.Loops
import SensCord.Serialize.Typed
import SensCord.Serialize.RoundTrip
import SensCord.Serialize.Descriptors
import SensCord.Serialize.FromDict
import SensCord.Serialize.Equality
import SensCord.Serialize.Array
import SensCord.Serialize.Serializable
import SensCord.CApi.Loader
import SensCord.CApi.Setting
import SensCord.CApi.Property
import SensCord.Stream.Callback
