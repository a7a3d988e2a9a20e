import Otserv.Market.Numbering
import Otserv.World.SpectatorAnswers
import Otserv.Conditions.SubIds
import Otserv.Speed.SpeedAccounting
import Otserv.Equipment.Modifiers
import Otserv.World.WalkCacheRefinement
import Otserv.Items.RoundTrip
import Otserv.Decay.Soundness
import Otserv.Otb.Encoding
import Otserv.Scheduling.StoppedEvents
import Otserv.Raids.RaidRuns
import Otserv.Parties.Membership
import Otserv.Spawns.SpawnRuns
import Otserv.Players.OutfitSaves
import Otserv.Monsters.Sight
import Otserv.Combat.Hits
import Otserv.Pathfinding.RoundRuns
import Otserv.Database.QueueRuns
import Otserv.Network.Autosend
import Otserv.Connections.WriteQueue
import Otserv.Creatures.WalkEvents
import Otserv.Deaths.DeathRuns
import Otserv.Summons.SummonRuns
import Otserv.Spectating.SpectatorRuns
import Otserv.Reconnects.ReconnectRuns
import Otserv.Windows.WindowRuns
import Otserv.HouseItems.HouseSaves
import Otserv.Checks.CheckRuns
import Otserv.Npcs.NpcRuns
import Otserv.GlobalEvents.EventRuns
import Otserv.Guilds.GuildRuns
import Otserv.Chats.ChatRuns
import Otserv.Scripts.ScriptRuns
import Otserv.Deliveries.Whereabouts
import Otserv.TileStack.BrowseRuns
import Otserv.Inventories.InventoryRuns
import Otserv.Cylinders.Conservation
import Otserv.Houses.VisitRuns
import Otserv.Guilds.GuildWars
import Otserv.Guilds.RankRuns
import Otserv.Teleports.LettingGo
import Otserv.Combat.Owners
import Otserv.Combat.Aims
import Otserv.Logins.WaitRuns
import Otserv.Attributes.AttributeRuns
import Otserv.Trade.TradeRuns
import Otserv.Experience.LevelRuns
import Otserv.Network.MapDecoding
import Otserv.Network.MapDecoding
import Otserv.Conditions.ConditionRestore
import Otserv.Conditions.ConditionRestore
import Otserv.ItemSaves.Restoring
import Otserv.Guilds.RankRuns
import Otserv.Teleports.LettingGo
import Otserv.Combat.Owners
import Otserv.Combat.Aims
import Otserv.Network.ClientCreatures
import Otserv.Sight.Exactness
import Otserv.Network.ClientCreatures
import Otserv.Sight.Exactness
import Otserv.Sight.Exactness
import Otserv.Pathfinding.FirstSteps
import Otserv.Pathfinding.FirstSteps
import Otserv.Items.Equality
import Otserv.Experience.SkillLoss
import Otserv.Conditions.LightLevels
import Otserv.Combat.DamageShares
import Otserv.Guilds.GuildBuffs
import Otserv.Monsters.DistanceSteps
import Otserv.Experience.SkillGains
import Otserv.Database.Inserts
import Otserv.Database.Transactions
import Otserv.Network.Adler
import Otserv.Connections.Throttle
