import LegendOfStealth.Library.TracedRead
import LegendOfStealth.Library.Transition
import LegendOfStealth.Library.FallibleFold
import LegendOfStealth.Library.ErasingPass
import LegendOfStealth.Library.EraseLoop
import LegendOfStealth.Library.PerKey
import LegendOfStealth.Library.SelfDelimiting
import LegendOfStealth.Library.Heap
import LegendOfStealth.Library.Grid
import LegendOfStealth.Library.GridWalk
import LegendOfStealth.Library.Pipeline
import LegendOfStealth.Library.Projection
import LegendOfStealth.Library.Painting
import LegendOfStealth.Protocol.Basic
import LegendOfStealth.Protocol.Packet
import LegendOfStealth.Protocol.Codec
import LegendOfStealth.Protocol.Wire
import LegendOfStealth.Protocol.Factory
import LegendOfStealth.Net.Receive
import LegendOfStealth.Net.Socket
import LegendOfStealth.Net.Send
import LegendOfStealth.Net.Disconnect
import LegendOfStealth.Net.Datagrams
import LegendOfStealth.Net.Untrusted
import LegendOfStealth.Server.Client
import LegendOfStealth.Server.State
import LegendOfStealth.Server.Admission
import LegendOfStealth.Server.Loop
import LegendOfStealth.Server.Faults
import LegendOfStealth.Server.History
import LegendOfStealth.Server.Delivery
import LegendOfStealth.Server.EventOrder
import LegendOfStealth.Server.Ledger
import LegendOfStealth.Server.Identity
import LegendOfStealth.Server.Balance
import LegendOfStealth.Server.ClientView
import LegendOfStealth.Server.Departure
import LegendOfStealth.Server.Shutdown
import LegendOfStealth.Server.Handles
import LegendOfStealth.Server.ConnectionListener
import LegendOfStealth.Server.Queues
import LegendOfStealth.Server.Buffers
import LegendOfStealth.Client.ServerConnector
import LegendOfStealth.Client.Survival
import LegendOfStealth.Client.Handshake
import LegendOfStealth.Client.Ownership
import LegendOfStealth.Client.Geometry
import LegendOfStealth.Client.Engine
import LegendOfStealth.Client.LightSource
import LegendOfStealth.Client.CustomTexture
import LegendOfStealth.Client.GameLights
import LegendOfStealth.Client.ShadowCaster
import LegendOfStealth.Client.ShadowShape
import LegendOfStealth.Client.ShadowLayer
import LegendOfStealth.Client.BoundingBox
import LegendOfStealth.Client.ShadowVertices
import LegendOfStealth.Client.ShadowScene
import LegendOfStealth.Client.Map
import LegendOfStealth.Client.MapLayer
import LegendOfStealth.Client.Rendering
import LegendOfStealth.Client.Lighting
import LegendOfStealth.Client.LineOfSight
import LegendOfStealth.Client.Frame
import LegendOfStealth.Client.StaleArrays
import LegendOfStealth.Client.Shader
import LegendOfStealth.Client.Uniforms
import LegendOfStealth.Client.Darkness
import LegendOfStealth.Client.MapParser
import LegendOfStealth.Client.MapLoader
import LegendOfStealth.Client.LevelGeometry
import LegendOfStealth.Client.TileShadows
import LegendOfStealth.Client.WallCategory
import LegendOfStealth.Client.ObjectTiles
import LegendOfStealth.Client.TextureClip
import LegendOfStealth.Client.DrawnTiles
import LegendOfStealth.Client.TileGrid
import LegendOfStealth.Client.Upload
import LegendOfStealth.Client.MapPicture
import LegendOfStealth.Client.Collision
import LegendOfStealth.Client.Play
import LegendOfStealth.Client.Reach
import LegendOfStealth.System.Join
import LegendOfStealth.System.Stalled
