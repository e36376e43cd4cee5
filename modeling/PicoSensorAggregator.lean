import PicoSensorAggregator.RuntimeSettings
import PicoSensorAggregator.NonVolatile
import PicoSensorAggregator.SettingsStore
import PicoSensorAggregator.PostField
import PicoSensorAggregator.SettingsLifecycle
import PicoSensorAggregator.MqttClient
import PicoSensorAggregator.TopicReassembly
import PicoSensorAggregator.Publish
import PicoSensorAggregator.Connection
import PicoSensorAggregator.WaterControl
import PicoSensorAggregator.ApMode
import PicoSensorAggregator.PostBuffer
import PicoSensorAggregator.SensorQueue
import PicoSensorAggregator.ClientInit
import PicoSensorAggregator.ControlTopics
import PicoSensorAggregator.Ds18b20
import PicoSensorAggregator.Sensors
import PicoSensorAggregator.WifiArch
