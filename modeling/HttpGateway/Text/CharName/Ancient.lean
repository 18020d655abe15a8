namespace HttpGateway.Text.CharName

def ancientNames : List (Nat × List String) := [
  (65536, [
    "aLINEAR B SYLLABLE B008 AdB038 EdB028 IdB061 OdB010 UdB001 DAdB045 DEdB007 DIdB014 DO",
    "dB051 DUdB057 JAdB046 JE.dB036 JOdB065 JUdB077 KAdB044 KEdB067 KIdB070 KOdB081 KUdB080 MA",
    "dB013 MEdB073 MIdB015 MOdB023 MUdB006 NAdB024 NEdB030 NIdB052 NOdB055 NUdB003 PAdB072 PE",
    "dB039 PIdB011 POdB050 PUdB016 QAdB078 QEdB021 QIdB032 QO.dB060 RAdB027 REdB053 RIdB002 RO",
    "dB026 RUdB031 SAdB009 SEdB041 SIdB012 SOdB058 SUdB059 TAdB004 TEdB037 TIdB005 TOdB069 TU",
    "dB054 WAdB075 WEdB040 WIdB042 WO.dB017 ZAdB074 ZE.dB020 ZOdB025 A2dB043 A3dB085 AUdB071 DWE",
    "dB090 DWOdB048 NWAdB029 PU2dB062 PTEdB076 RA2dB033 RA3dB068 RO2dB066 TA2dB087 TWEdB091 TWO.",
    ".cSYMBOL B018+dB022dB034dB047dB049dB056dB063+dB079dB082+dB086dB089.........................",
    ".........cIDEOGRAM B100 MANdB102 WOMANdB104 DEERdB105 EQUIDdB105F MAREdB105M STALLION",
    "dB106F EWEdB106M RAMdB107F SHE-GOATdB107M HE-GOATdB108F SOWdB108M BOARdB109F COWdB109M BULL",
    "dB120 WHEATdB121 BARLEYdB122 OLIVEdB123 SPICEdB125 CYPERUScMONOGRAM B127 KAPOdB128 KANAKO",
    "cIDEOGRAM B130 OILdB131 WINEdB132cMONOGRAM B133 AREPAdB135 MERIcIDEOGRAM B140 BRONZE",
    "dB141 GOLDdB142dB145 WOOLdB146dB150dB151 HORNdB152++cMONOGRAM B156 TURO2cIDEOGRAM B157+",
    "dB159 CLOTHdB160+dB162 GARMENTdB163 ARMOURdB164++++++++dB173 MONTHdB174dB176 TREEdB177+++++",
    "+++dB189+dB191 HELMETdB220 FOOTSTOOLdB225 BATHTUBdB230 SPEARdB231 ARROWdB232dB233 SWORD",
    "dB234dB236dB240 WHEELED CHARIOTdB241:1dB242 CHARIOT FRAMEdB243 WHEELdB245+",
    "cMONOGRAM B247 DIPTEcIDEOGRAM B248+dB251++dB254 DARTdB255++++dVESSEL B155eB200+++++++++++++",
    "++++++eB221+eB226+++eB250eB305.....aAEGEAN WORD SEPARATOR LINEdDOTbCHECK MARK....",
    "bNUMBER ONEcTWOcTHREEcFOURcFIVEcSIXcSEVENcEIGHTcNINEcTENcTWENTYcTHIRTYcFORTYcFIFTYcSIXTY",
    "cSEVENTYcEIGHTYcNINETYcONE HUNDREDcTWO:1cTHREE:1cFOUR:1cFIVE:1cSIX:1cSEVEN:1cEIGHT:1cNINE:1",
    "cONE THOUSANDcTWO:1cTHREE:1cFOUR:1cFIVE:1cSIX:1cSEVEN:1cEIGHT:1cNINE:1cTEN:1cTWENTY:1",
    "cTHIRTY:1cFORTY:1cFIFTY:1cSIXTY:1cSEVENTY:1cEIGHTY:1cNINETY:1...bWEIGHT BASE UNIT",
    "cFIRST SUBUNITcSECOND:1cTHIRD:1cFOURTH:1bDRY MEASURE FIRST:1bLIQUID:3bMEASURE SECOND:1",
    "cTHIRD:1aGREEK ACROPHONIC ATTIC ONE QUARTEReHALFeDRACHMAdFIVEdFIFTYdFIVE HUNDREDeTHOUSAND",
    "dFIFTY:1dFIVE TALENTSdTEN:1dFIFTY:1dONE HUNDRED:1dFIVE:2dONE THOUSAND:1dFIVE:2eSTATERS",
    "dTEN:1dFIFTY:1dONE HUNDRED:1dFIVE:2dONE THOUSAND:1dTEN:2dFIFTY:2dTEN MNAS",
    "cHERAEUM ONE PLETHRONcTHESPIAN ONEcHERMIONIAN:1cEPIDAUREAN TWOcTHESPIAN:1",
    "cCYRENAIC TWO DRACHMAScEPIDAUREAN:2cTROEZENIAN FIVEdTENeALTERNATE FORMcHERMIONIAN TEN",
    "cMESSENIAN:1cTHESPIAN:1dTHIRTYcTROEZENIAN FIFTYeALTERNATE FORMcHERMIONIAN FIFTYcTHESPIAN:1",
    "dONE HUNDREDdTHREE:1cEPIDAUREAN FIVE:1cTROEZENIAN:2cTHESPIAN:2cCARYSTIAN:2cNAXIAN:2",
    "cTHESPIAN ONE THOUSANDdFIVE:1cDELPHIC FIVE MNAScSTRATIAN FIFTY:1bONE HALF SIGN",
    "eALTERNATE FORMbTWO THIRDS SIGNbTHREE QUARTERS:1bYEAR:1bTALENT:1bDRACHMA:1bOBOL:1",
    "bTWO OBOLS:1bTHREE:2bFOUR:2bFIVE:2bMETRETES:1bKYATHOS BASE:1bLITRA:1bOUNKIA:1bXESTES:1",
    "bARTABE:1bAROURA:1bGRAMMA:1bTRYBLION BASE:1bZERO:1bONE QUARTER:1bSINUSOID:1bINDICTION:1",
    "aNOMISMA:1.aROMAN SEXTANS:1bUNCIA:1bSEMUNCIA:1bSEXTULA:1bDIMIDIA:2bSILIQUA:1bDENARIUS:1",
    "bQUINARIUS:1bSESTERTIUS:1bDUPONDIUS:1bAS:1bCENTURIAL:1aASCIA SYMBOL...aGREEK SYMBOL TAU RHO"]),
  (66000, [
    "aPHAISTOS DISC SIGN PEDESTRIANdPLUMED HEADdTATTOOED:1dCAPTIVEdCHILDdWOMANdHELMETdGAUNTLET",
    "dTIARAdARROWdBOWdSHIELDdCLUBdMANACLESdMATTOCKdSAWdLIDdBOOMERANGdCARPENTRY PLANEdDOLIUMdCOMB",
    "dSLINGdCOLUMNdBEEHIVEdSHIPdHORNdHIDEdBULLS LEGdCATdRAMdEAGLEdDOVEdTUNNYdBEEdPLANE TREEdVINE",
    "dPAPYRUSdROSETTEdLILYdOX BACKdFLUTEdGRATERdSTRAINERdSMALL AXEdWAVY BAND",
    "dCOMBINING OBLIQUE STROKE"]),
  (66176, [
    "aLYCIAN LETTER AcEcBcBHcGcDcIcWcZcTHcJcKcQcLcMcNcMMcNNcUcPcKKcRcScTcTTcANcENcHcX...",
    "aCARIAN LETTER AcP2cDcLcUUUcRcLDcA2cQcBcMcOcD2cTcSHcSH2cScC-18cUcNNcXcNcTT2cPcSScIcEcUUUUcK",
    "cK2cNDcUUcGcG2cSTcST2cNGcIIcC-39cTTcUUU2cRRcMBcMB2++cLD2cE2cUUU3...............",
    "aCOPTIC EPACT THOUSANDS MARKcDIGIT ONEdTWOdTHREEdFOURdFIVEdSIXdSEVENdEIGHTdNINEcNUMBER TEN",
    "dTWENTYdTHIRTYdFORTYdFIFTYdSIXTYdSEVENTYdEIGHTYdNINETYdONE HUNDREDdTWO:1dTHREE:1dFOUR:1",
    "dFIVE:1dSIX:1dSEVEN:1dEIGHT:1dNINE:1....aOLD ITALIC LETTER AdBEdKEdDEdEdVEdZEdHEdTHEdIdKA",
    "dELdEMdENdESHdOdPEdSHEdKUdERdESdTEdUdEKSdPHEdKHEdEFdERSdCHEdIIdUUdESScNUMERAL ONEdFIVEdTEN",
    "dFIFTY.........cLETTER YEdNORTHERN TSEdSOUTHERN:1aGOTHIC LETTER AHSAcBAIRKANcGIBAcDAGS",
    "cAIHVUScQAIRTHRAcIUJAcHAGLcTHIUTHcEIScKUSMAcLAGUScMANNAcNAUTHScJERcURUScPAIRTHRAcNINETY",
    "cRAIDAcSAUILcTEIWScWINJAcFAIHUcIGGWScHWAIRcOTHALcNINE HUNDRED.....aOLD PERMIC LETTER ANdBUR",
    "dGAIdDOIdEdZHOIdDZHOIdZATAdDZITAdIdKOKEdLEIdMENOEdNENOEdVOOIdPEEIdREIdSIIdTAIdUdCHERYdSHOOI",
    "dSHCHOOIdYRYdYERUdOdOOdEFdHAdTSIUdVERdYERdYERIdYATdIEdYUdYAdIA",
    "aCOMBINING OLD PERMIC LETTER ANeDOIeZATAeNENOEeSII.....aUGARITIC LETTER ALPAcBETAcGAMLAcKHA",
    "cDELTAcHOcWOcZETAcHOTAcTETcYODcKAFcSHINcLAMDAcMEMcDHALcNUNcZUcSAMKAcAINcPUcSADEcQOPAcRASHA",
    "cTHANNAcGHAINcTOcIcUcSSU.bWORD DIVIDERaOLD PERSIAN SIGN AdIdUdKAdKUdGAdGUdXAdCAdJAdJIdTAdTU",
    "dDAdDIdDUdTHAdPAdBAdFAdNAdNUdMAdMIdMUdYAdVAdVIdRAdRUdLAdSAdZAdSHAdSSAdHA....dAURAMAZDAA",
    "dAURAMAZDAA-2dAURAMAZDAAHAdXSHAAYATHIYAdDAHYAAUSHdDAHYAAUSH-2dBAGAdBUUMISHcWORD DIVIDER",
    "cNUMBER ONEdTWOdTENdTWENTYdHUNDRED"]),
  (66560, [
    "aDESERET CAPITAL LETTER LONG IeEeAeAHeOeOOdSHORT IeEeAeAHeOeOOdAYdOWdWUdYEEdHdPEEdBEEdTEE",
    "dDEEdCHEEdJEEdKAYdGAYdEFdVEEdETHdTHEEdESdZEEdESHdZHEEdERdELdEMdENdENGdOIdEW",
    "bSMALL LETTER LONG IeEeAeAHeOeOOdSHORT IeEeAeAHeOeOOdAYdOWdWUdYEEdHdPEEdBEEdTEEdDEEdCHEE",
    "dJEEdKAYdGAYdEFdVEEdETHdTHEEdESdZEEdESHdZHEEdERdELdEMdENdENGdOIdEWaSHAVIAN LETTER PEEPcTOT",
    "cKICKcFEEcTHIGHcSOcSUREcCHURCHcYEAcHUNGcBIBcDEADcGAGcVOWcTHEYcZOOcMEASUREcJUDGEcWOEcHA-HA",
    "cLOLLcMIMEcIFcEGGcASHcADOcONcWOOLcOUTcAHcROARcNUNcEATcAGEcICEcUPcOAKcOOZEcOILcAWEcAREcOR",
    "cAIRcERRcARRAYcEARcIANcYEWaOSMANYA LETTER ALEFcBAcTAcJAcXAcKHAcDEELcRAcSAcSHIINcDHAcCAYNcGA",
    "cFAcQAAFcKAAFcLAANcMIINcNUUNcWAWcHAcYAcAcEcIcOcUcAAcEEcOO..bDIGIT ZEROcONEcTWOcTHREEcFOUR",
    "cFIVEcSIXcSEVENcEIGHTcNINE......aOSAGE CAPITAL LETTER AdAIdAINdAHdBRAdCHAdEHCHAdEdEINdHA",
    "dHYAdIdKAdEHKAdKYAdLAdMAdNAdOdOINdPAdEHPAdSAdSHAdTAdEHTAdTSAdEHTSAdTSHAdDHAdUdWAdKHAdGHAdZA",
    "dZHA....bSMALL LETTER AdAIdAINdAHdBRAdCHAdEHCHAdEdEINdHAdHYAdIdKAdEHKAdKYAdLAdMAdNAdOdOIN",
    "dPAdEHPAdSAdSHAdTAdEHTAdTSAdEHTSAdTSHAdDHAdUdWAdKHAdGHAdZAdZHA....aELBASAN LETTER AcBEcCE",
    "cCHEcDEcNDEcDHEcEIcEcFEcGEcGJEcHEcIcJEcKEcLEcLLEcMEcNEcNAcNJEcOcPEcQEcREcRREcSEcSHEcTEcTHE",
    "cUcVEcXEcYcZEcZHEcGHEcGHAMMAcKHE........aCAUCASIAN ALBANIAN LETTER ALTdBETdGIMdDATdEBdZARL",
    "dEYNdZHILdTASdCHAdYOWDdZHAdIRBdSHAdLANdINYAdXEYNdDYANdCARdJHOXdKARdLYITdHEYTdQAYdAORdCHOY",
    "dCHIdCYAYdMAQdQARdNOWCdDZYAYdSHAKdJAYNdONdTYAYdFAMdDZAYdCHATdPENdGHEYSdRATdSEYKdVEYZdTIWR",
    "dSHOYdIWNdCYAWdCAYNdYAYDdPIWRdKIW...........cCITATION MARKaVITHKUQI CAPITAL LETTER AdBBEdBE",
    "dCEdCHEdDEdDHEdEIdEdFEdGA.dHAdHHAdIdIJEdJEdKAdLAdLLAdMEdNEdNJEdOdPEdQAdRE.dSEdSHEdTEdTHEdU",
    "dVEdXE.dYdZE.bSMALL LETTER AdBBEdBEdCEdCHEdDEdDHEdEIdEdFEdGA.dHAdHHAdIdIJEdJEdKAdLAdLLAdME",
    "dNEdNJEdOdPEdQAdRE.dSEdSHEdTEdTHEdUdVEdXE.dYdZE"]),
  (67072, [
    "aLINEAR A SIGN AB001++++++++++dAB013dAB016+dAB020+dAB021FdAB021MdAB022dAB022FdAB022MdAB023",
    "dAB023MdAB024dAB026++dA028BdAB029++dAB034dAB037++++dAB044+++++++dAB053++++++++dAB065++",
    "dAB069+dAB073+dAB076++++++dAB085++dA100-102dAB118dAB120dA120BdAB122+dAB131AdAB131BdA131C",
    "dAB164dAB171dAB180dAB188dAB191dA301+++++++dA309AdA309BdA309CdA310++dA313AdA313BdA313CdA314+",
    "++++++++++++++++++++++++++++++++++++++++++++++++++++++++dA400-VASdA401-VASdA402-VAS",
    "dA403-VASdA404-VASdA405-VASdA406-VASdA407-VASdA408-VASdA409-VASdA410-VASdA411-VASdA412-VAS",
    "dA413-VASdA414-VASdA415-VASdA416-VASdA417-VASdA418-VASdA501+++++dA508+++++dA515+dA520+dA523",
    "+++++++++dA534++++++++dA545dA547++++++++++dA559dA563+++dA568+++++++++++++++++++++dA591+",
    "dA594++dA598dA600++++dA606dA608++++++++++++++++dA626+++dA634dA637+dA640dA642++++dA648+dA651",
    "+++++++++++++.........dA701 AdA702 BdA703 DdA704 EdA705 FdA706 HdA707 JdA708 KdA709 L",
    "dA709-2 L2dA709-3 L3dA709-4 L4dA709-6 L6dA710 WdA711 XdA712 YdA713 OMEGAdA714 ABBdA715 BB",
    "dA717 DDdA726 EYYYdA732 JE..........dA800+++++++........................",
    "aMODIFIER LETTER SMALL CAPITAL AAcSUPERSCRIPT TRIANGULAR COLONdHALF:2cSMALL AEdCAPITAL B",
    "dB WITH HOOK.dDZ DIGRAPHfWITH RETROFLEX HOOKgCURLdDEZH DIGRAPHdD WITH TAILfHOOKgAND TAIL",
    "dREVERSED EdCLOSED REVERSED OPEN EdFENG DIGRAPHdRAMS HORNdCAPITAL GdG WITH HOOKdCAPITAL:3",
    "dH WITH STROKEdCAPITAL HdHENG WITH HOOKdDOTLESS J WITH STROKE AND:1dLS DIGRAPHdLZ:1",
    "dL WITH BELTdCAPITAL:3dL WITH RETROFLEX HOOK AND:1dLEZHeWITH RETROFLEX HOOKdTURNED Y",
    "fWITH BELTdO WITH STROKEdCAPITAL OEdCLOSED OMEGAdQdTURNED R WITH LONG LEG",
    "iAND RETROFLEX HOOKdR WITH TAILfFISHHOOKdCAPITAL RdTC DIGRAPH WITH CURLdTS DIGRAPH",
    "fWITH RETROFLEX HOOKdTESH DIGRAPHdT WITH RETROFLEX HOOKdV WITH RIGHT:1.dCAPITAL Y",
    "cGLOTTAL STOP WITH STROKEcREVERSED:4cBILABIAL CLICKcDENTAL:1cLATERAL:1cALVEOLAR:1",
    "cRETROFLEX CLICK WITH RETROFLEX HOOKcSMALL S WITH CURL"]),
  (67584, [
    "aCYPRIOT SYLLABLE AcEcIcOcUcJA..cJO.cKAcKEcKIcKOcKUcLAcLEcLIcLOcLUcMAcMEcMIcMOcMUcNAcNEcNI",
    "cNOcNUcPAcPEcPIcPOcPUcRAcREcRIcROcRUcSAcSEcSIcSOcSUcTAcTEcTIcTOcTUcWAcWEcWIcWO.cXAcXE...cZA",
    "..cZOaIMPERIAL ARAMAIC LETTER ALEPHdBETHdGIMELdDALETHdHEdWAWdZAYINdHETHdTETHdYODHdKAPH",
    "dLAMEDHdMEMdNUNdSAMEKHdAYINdPEdSADHEdQOPHdRESHdSHINdTAW.cSECTION SIGNcNUMBER ONEdTWOdTHREE",
    "dTENdTWENTYdONE HUNDREDeTHOUSANDdTEN:1aPALMYRENE LETTER ALEPHcBETHcGIMELcDALETHcHEcWAW",
    "cZAYINcHETHcTETHcYODHcKAPHcLAMEDHcMEMcFINAL NUNc:1cSAMEKHcAYINcPEcSADHEcQOPHcRESHcSHINcTAW",
    "bLEFT-POINTING FLEURONbRIGHT-POINTING:1bNUMBER ONEcTWOcTHREEcFOURcFIVEcTENcTWENTY",
    "aNABATAEAN LETTER FINAL ALEPHc:1cFINAL BETHc:1cGIMELcDALETHcFINAL HEcHEcWAWcZAYINcHETHcTETH",
    "cFINAL YODHc:1cFINAL KAPHc:1cFINAL LAMEDHc:1cFINAL MEMc:1cFINAL NUNc:1cSAMEKHcAYINcPEcSADHE",
    "cQOPHcRESHcFINAL SHINc:1cTAW........bNUMBER ONEcTWOcTHREEcFOURbCRUCIFORM:2bNUMBER FIVEcTEN",
    "cTWENTYcONE HUNDRED"]),
  (67808, [
    "aHATRAN LETTER ALEPHcBETHcGIMELcDALETH-RESHcHEcWAWcZAYNcHETHcTETHcYODHcKAPHcLAMEDHcMEMcNUN",
    "cSAMEKHcAYNcPEcSADHEcQOPH.cSHINcTAW.....bNUMBER ONEcFIVEcTENcTWENTYcONE HUNDRED",
    "aPHOENICIAN LETTER ALFcBETcGAMLcDELTcHEcWAUcZAIcHETcTETcYODcKAFcLAMDcMEMcNUNcSEMKcAINcPE",
    "cSADEcQOFcROSHcSHINcTAUbNUMBER ONEcTENcTWENTYcONE HUNDREDcTWOcTHREE...bWORD SEPARATOR",
    "aLYDIAN LETTER AcBcGcDcEcVcIcYcKcLcMcNcOcRcSScTcUcFcQcScTTcANcENcLYcNNcC.....",
    "bTRIANGULAR MARK"]),
  (67968, [
    "aMEROITIC HIEROGLYPHIC LETTER AdEdIdOdYAdWAdBAdBA-2dPAdMAdNAdNA-2dNEdNE-2dRAdRA-2dLAdKHA",
    "dHHAdSAdSA-2dSEdKAdQAdTAdTA-2dTEdTE-2dTOdDAcSYMBOL VIDJdVIDJ-2bCURSIVE LETTER AdEdIdOdYAdWA",
    "dBAdPAdMAdNAdNEdRAdLAdKHAdHHAdSAdARCHAIC:1dSEdKAdQAdTAdTEdTOdDA....",
    "cFRACTION ELEVEN TWELFTHSdONE HALFcLOGOGRAM RMTdIMNcNUMBER ONEdTWOdTHREEdFOURdFIVEdSIX",
    "dSEVENdEIGHTdNINEdTENdTWENTYdTHIRTYdFORTYdFIFTYdSIXTYdSEVENTY..dONE HUNDREDdTWO:1dTHREE:1",
    "dFOUR:1dFIVE:1dSIX:1dSEVEN:1dEIGHT:1dNINE:1dONE THOUSANDdTWO:1dTHREE:1dFOUR:1dFIVE:1dSIX:1",
    "dSEVEN:1dEIGHT:1dNINE:1dTEN:1dTWENTY:1dTHIRTY:1dFORTY:1dFIFTY:1dSIXTY:1dSEVENTY:1dEIGHTY:1",
    "dNINETY:1dONE HUNDRED:1dTWO:2dTHREE:2dFOUR:2dFIVE:2dSIX:2dSEVEN:2dEIGHT:2dNINE:2",
    "cFRACTION ONE TWELFTHdTWO TWELFTHSdTHREE:1dFOUR:1dFIVE:1dSIX:1dSEVEN:1dEIGHT:1dNINE:1dTEN:1",
    "aKHAROSHTHI LETTER AbVOWEL SIGN IdUdVOCALIC R.dEdO.....cLENGTH MARKbSIGN DOUBLE RING BELOW",
    "cANUSVARAcVISARGAbLETTER KAcKHAcGAcGHA.cCAcCHAcJA.cNYAcTTAcTTHAcDDAcDDHAcNNAcTAcTHAcDAcDHA",
    "cNAcPAcPHAcBAcBHAcMAcYAcRAcLAcVAcSHAcSSAcSAcZAcHAcKKAcTTTHAcTTTAcVHA..bSIGN BAR ABOVEcCAUDA",
    "cDOT BELOW....bVIRAMAbDIGIT ONEcTWOcTHREEcFOURbNUMBER TENcTWENTYcONE HUNDREDdTHOUSAND",
    "bFRACTION ONE HALF.......bPUNCTUATION DOTcSMALL CIRCLEc:1cCRESCENT BARcMANGALAMcLOTUScDANDA",
    "cDOUBLE:1cLINES.......aOLD SOUTH ARABIAN LETTER HEeLAMEDHeHETHeMEMeQOPHeWAWeSHINeRESHeBETH",
    "eTAWeSATeKAPHeNUNeKHETHeSADHEeSAMEKHeFEeALEFeAYNeDHADHEeGIMELeDALETHeGHAYNeTETHeZAYN",
    "eDHALETHeYODHeTHAWeTHETHdNUMBER ONEeFIFTYdNUMERIC INDICATORbNORTH ARABIAN LETTER HEHeLAM",
    "eHAHeMEEMeQAFeWAWeES-2eREHeBEHeTEHeES-1eKAFeNOONeKHAHeSADeES-3eFEHeALEFeAINeDADeGEEMeDAL",
    "eGHAINeTAHeZAINeTHALeYEHeTHEHeZAHdNUMBER ONEeTENeTWENTY................................",
    "aMANICHAEAN LETTER ALEPHcBETHcBHETHcGIMELcGHIMELcDALETHcHEcWAWbSIGN UDbLETTER ZAYINcZHAYIN",
    "cJAYINcJHAYINcHETHcTETHcYODHcKAPHcXAPHcKHAPHcLAMEDHcDHAMEDHcTHAMEDHcMEMcNUNcSAMEKHcAYIN",
    "cAAYINcPEcFEcSADHEcQOPHcXOPHcQHOPHcRESHcSHINcSSHINcTAWbABBREVIATION MARK ABOVEdBELOW....",
    "bNUMBER ONEcFIVEcTENcTWENTYcONE HUNDREDbPUNCTUATION STARcFLEURONcDOUBLE DOT WITHIN DOTc:3d",
    "cTWO DOTScLINE FILLER.........aAVESTAN LETTER AcAAcAOcAAOcANcAANcAEcAEEcEcEEcOcOOcIcIIcUcUU",
    "cKEcXEcXYEcXVEcGEcGGEcGHEcCEcJEcTEcTHEcDEcDHEcTTEcPEcFEcBEcBHEcNGEcNGYEcNGVEcNEcNYEcNNEcME",
    "cHMEcYYEcYEcVEcREcLEcSEcZEcSHEcZHEcSHYEcSSHEcHE...bABBREVIATION MARK",
    "aTINY TWO DOTS OVER ONE DOT PUNCTUATIONaSMALL:6aLARGE:6bONE DOT OVER TWO DOTS:1",
    "bTWO RINGS OVER ONE RING:1bONE RING OVER TWO RINGS:1aINSCRIPTIONAL PARTHIAN LETTER ALEPH",
    "dBETHdGIMELdDALETHdHEdWAWdZAYINdHETHdTETHdYODHdKAPHdLAMEDHdMEMdNUNdSAMEKHdAYINdPEdSADHE",
    "dQOPHdRESHdSHINdTAW..cNUMBER ONEdTWOdTHREEdFOURdTENdTWENTYdONE HUNDREDeTHOUSAND",
    "bPAHLAVI LETTER ALEPHdBETHdGIMELdDALETHdHEdWAW-AYIN-RESHdZAYINdHETHdTETHdYODHdKAPHdLAMEDH",
    "dMEM-QOPHdNUNdSAMEKHdPEdSADHEdSHINdTAW.....cNUMBER ONEdTWOdTHREEdFOURdTENdTWENTY",
    "dONE HUNDREDeTHOUSANDaPSALTER PAHLAVI LETTER ALEPHdBETHdGIMELdDALETHdHEdWAW-AYIN-RESHdZAYIN",
    "dHETHdYODHdKAPHdLAMEDHdMEM-QOPHdNUNdSAMEKHdPEdSADHEdSHINdTAW.......cSECTION MARKcTURNED:2",
    "cFOUR DOTS WITH CROSSfDOT............cNUMBER ONEdTWOdTHREEdFOURdTENdTWENTYdONE HUNDRED"]),
  (68608, [
    "aOLD TURKIC LETTER ORKHON AdYENISEI AeAEdORKHON IdYENISEI IeEdORKHON OeOEdYENISEI:1",
    "dORKHON ABdYENISEI:1dORKHON AEBdYENISEI:1dORKHON AGdYENISEI:1dORKHON AEGdYENISEI:1",
    "dORKHON ADdYENISEI:1dORKHON AEDeEZdYENISEI:1dORKHON AYdYENISEI:1dORKHON AEYdYENISEI:1",
    "dORKHON AEKdYENISEI:1dORKHON OEKdYENISEI:1dORKHON ALdYENISEI:1dORKHON AELeELTeEMeANeAEN",
    "dYENISEI:1dORKHON ENTdYENISEI:1dORKHON ENCdYENISEI:1dORKHON ENYdYENISEI:1eANGdORKHON ENG",
    "dYENISEI AENGdORKHON EPeOPeICeECdYENISEI:1dORKHON AQdYENISEI:1dORKHON IQdYENISEI:1",
    "dORKHON OQdYENISEI:1dORKHON ARdYENISEI:1dORKHON AEReASeAESeASHdYENISEI:1dORKHON ESH",
    "dYENISEI:1dORKHON ATdYENISEI:1dORKHON AETdYENISEI:1dORKHON OTeBASH"]),
  (68736, [
    "aOLD HUNGARIAN CAPITAL LETTER AeAAeEBeAMBeECeENCeECSeEDeANDeEeCLOSE EeEEeEFeEGeEGYeEHeIeII",
    "eEJeEKeAKeUNKeELeELYeEMeENeENYeOeOOeNIKOLSBURG OEeRUDIMENTA:1eOEEeEPeEMPeEReSHORT:1eESeESZ",
    "eETeENTeETYeECHeUeUUeNIKOLSBURG UEeRUDIMENTA:1eEVeEZeEZSeENT-SHAPED SIGNeUS.............",
    "cSMALL LETTER AeAAeEBeAMBeECeENCeECSeEDeANDeEeCLOSE EeEEeEFeEGeEGYeEHeIeIIeEJeEKeAKeUNKeEL",
    "eELYeEMeENeENYeOeOOeNIKOLSBURG OEeRUDIMENTA:1eOEEeEPeEMPeEReSHORT:1eESeESZeETeENTeETYeECHeU",
    "eUUeNIKOLSBURG UEeRUDIMENTA:1eEVeEZeEZSeENT-SHAPED SIGNeUS.......cNUMBER ONEdFIVEdTENdFIFTY",
    "dONE HUNDREDeTHOUSANDaHANIFI ROHINGYA LETTER AdBAdPAdTAdTTAdJAdCAdHAdKHAdFAdDAdDDAdRAdRRA",
    "dZAdSAdSHAdKAdGAdLAdMAdNAdWAdKINNA:1dYAdKINNA:1dNGAdNYAdVAcVOWEL AdIdUdEdOcMARK SAKIN",
    "dNA KHONNAcSIGN HARBAHAYdTAHALAdTANAdTASSI........cDIGIT ZEROdONEdTWOdTHREEdFOURdFIVEdSIX",
    "dSEVENdEIGHTdNINE"]),
  (69216, [
    "aRUMI DIGIT ONEcTWOcTHREEcFOURcFIVEcSIXcSEVENcEIGHTcNINEbNUMBER TENcTWENTYcTHIRTYcFORTY",
    "cFIFTYcSIXTYcSEVENTYcEIGHTYcNINETYcONE HUNDREDcTWO:1cTHREE:1cFOUR:1cFIVE:1cSIX:1cSEVEN:1",
    "cEIGHT:1cNINE:1bFRACTION ONE HALFdQUARTERdTHIRDcTWO THIRDS.aYEZIDI LETTER ELIFcBEcPEcPHE",
    "cTHEcSEcCIMcCHIMcCHHIMcHHAcXAcDALcZALcRAcRHAcZAcJAcSINcSHINcSADcDADcTAcZEcEYNcXHEYNcFAcVA",
    "dALTERNATE FORMcQAFcKAFcKHAFcGAFcLAMcMIMcNUNcUMcWAWcOWcEWcHAYcYOTcET.bCOMBINING HAMZA MARK",
    "cMADDA:1bHYPHENATION:1..bLETTER LAM WITH DOT ABOVEcYOT WITH CIRCUMFLEX:1"]),
  (69376, [
    "aOLD SOGDIAN LETTER ALEPHdFINAL:1dBETHdFINAL:1dGIMELdHEdFINAL:1dWAWdZAYINdHETHdYODHdKAPH",
    "dLAMEDHdMEMdNUNdFINAL:1fWITH VERTICAL TAILdSAMEKHdAYINdALTERNATE:1dPEdSADHEdFINAL:1",
    "fWITH VERTICAL TAILdRESH-AYIN-DALETHdSHINdTAWdFINAL:1fWITH VERTICAL TAILcNUMBER ONEdTWO",
    "dTHREEdFOURdFIVEdTENdTWENTYdTHIRTYdONE HUNDREDcFRACTION ONE HALFcLIGATURE AYIN-DALETH......",
    "..aSOGDIAN LETTER ALEPHcBETHcGIMELcHEcWAWcZAYINcHETHcYODHcKAPHcLAMEDHcMEMcNUNcSAMEKHcAYIN",
    "cPEcSADHEcRESH-AYINcSHINcTAWcFETHcLESHbINDEPENDENT SHINbCOMBINING DOT BELOWcTWO DOTS:1",
    "cDOT ABOVEcTWO DOTS:1cCURVE:1dBELOWcHOOK ABOVEdBELOWcLONG:2cRESH:1cSTROKE:1bNUMBER ONEcTEN",
    "cTWENTYcONE HUNDREDbPUNCTUATION TWO VERTICAL BARSfWITH DOTScCIRCLE WITH DOT",
    "cTWO CIRCLES WITH DOTScHALF CIRCLE WITH DOT......................aOLD UYGHUR LETTER ALEPH",
    "dBETHdGIMEL-HETHdWAWdZAYINdFINAL HETHdYODHdKAPHdLAMEDHdMEMdNUNdSAMEKHdPEdSADHEdRESHdSHIN",
    "dTAWdLESHcCOMBINING DOT ABOVEeBELOWdTWO DOTS ABOVEfBELOWcPUNCTUATION BARdTWO BARSeDOTS",
    "dFOUR:1......................................aCHORASMIAN LETTER ALEPHcSMALL:1cBETHcGIMEL",
    "cDALETHcHEcWAWcCURLED:1cZAYINcHETHcYODHcKAPHcLAMEDHcMEMcNUNcSAMEKHcAYINcPEcRESHcSHINcTAW",
    "bNUMBER ONEcTWOcTHREEcFOURcTENcTWENTYcONE HUNDRED....................aELYMAIC LETTER ALEPH",
    "cBETHcGIMELcDALETHcHEcWAWcZAYINcHETHcTETHcYODHcKAPHcLAMEDHcMEMcNUNcSAMEKHcAYINcPEcSADHE",
    "cQOPHcRESHcSHINcTAWbLIGATURE ZAYIN-YODH.........aBRAHMI SIGN CANDRABINDUcANUSVARAcVISARGA",
    "cJIHVAMULIYAcUPADHMANIYAbLETTER AcAAcIcIIcUcUUcVOCALIC RdRRdLdLLcEcAIcOcAUcKAcKHAcGAcGHA",
    "cNGAcCAcCHAcJAcJHAcNYAcTTAcTTHAcDDAcDDHAcNNAcTAcTHAcDAcDHAcNAcPAcPHAcBAcBHAcMAcYAcRAcLAcVA",
    "cSHAcSSAcSAcHAcLLAcOLD TAMIL LLLAeRRAeNNNAbVOWEL SIGN AAdBHATTIPROLU:1dIdIIdUdUUdVOCALIC R",
    "eRReLeLLdEdAIdOdAUbVIRAMAbDANDAbDOUBLE:1bPUNCTUATION DOTcDOUBLE:1cLINEcCRESCENT BARcLOTUS..",
    "..bNUMBER ONEcTWOcTHREEcFOURcFIVEcSIXcSEVENcEIGHTcNINEcTENcTWENTYcTHIRTYcFORTYcFIFTYcSIXTY",
    "cSEVENTYcEIGHTYcNINETYcONE HUNDREDdTHOUSANDbDIGIT ZEROcONEcTWOcTHREEcFOURcFIVEcSIXcSEVEN",
    "cEIGHTcNINEbSIGN OLD TAMIL VIRAMAbLETTER OLD TAMIL SHORT EfObVOWEL SIGN OLD TAMIL SHORT EgO",
    "bLETTER OLD TAMIL LLA.........bNUMBER JOINERaKAITHI SIGN CANDRABINDUcANUSVARAcVISARGA",
    "bLETTER AcAAcIcIIcUcUUcEcAIcOcAUcKAcKHAcGAcGHAcNGAcCAcCHAcJAcJHAcNYAcTTAcTTHAcDDAcDDDHA",
    "cDDHAcRHAcNNAcTAcTHAcDAcDHAcNAcPAcPHAcBAcBHAcMAcYAcRAcLAcVAcSHAcSSAcSAcHAbVOWEL SIGN AAdI",
    "dIIdUdUUdEdAIdOdAUbSIGN VIRAMAcNUKTAbABBREVIATION SIGNbENUMERATION:1bNUMBER:1bSECTION MARK",
    "bDOUBLE:2bDANDAbDOUBLE:1bVOWEL SIGN VOCALIC R..........bNUMBER SIGN ABOVE..",
    "aSORA SOMPENG LETTER SAHdTAHdBAHdCAHdDAHdGAHdMAHdNGAHdLAHdNAHdVAHdPAHdYAHdRAHdHAHdKAHdJAH",
    "dNYAHdAHdEEHdIHdUHdOHdEHdMAE.......cDIGIT ZEROdONEdTWOdTHREEdFOURdFIVEdSIXdSEVENdEIGHTdNINE",
    "......aCHAKMA SIGN CANDRABINDUcANUSVARAcVISARGAbLETTER AAcIcUcEcKAAcKHAAcGAAcGHAAcNGAAcCAA",
    "cCHAAcJAAcJHAAcNYAAcTTAAcTTHAAcDDAAcDDHAAcNNAAcTAAcTHAAcDAAcDHAAcNAAcPAAcPHAAcBAAcBHAAcMAA",
    "cYYAAcYAAcRAAcLAAcWAAcSAAcHAAbVOWEL SIGN AdIdIIdUdUUdEdAIdOdAUdOIbO MARKbAU:1bVIRAMA",
    "bMAAYYAA.bDIGIT ZEROcONEcTWOcTHREEcFOURcFIVEcSIXcSEVENcEIGHTcNINEbSECTION MARKbDANDA",
    "bDOUBLE:1bQUESTION MARKbLETTER LHAAbVOWEL SIGN AAdEIbLETTER VAA........aMAHAJANI LETTER AcI",
    "cUcEcOcKAcKHAcGAcGHAcCAcCHAcJAcJHAcNYAcTTAcTTHAcDDAcDDHAcNNAcTAcTHAcDAcDHAcNAcPAcPHAcBAcBHA",
    "cMAcRAcLAcVAcSAcHAcRRAbSIGN NUKTAbABBREVIATION SIGNbSECTION MARKbLIGATURE SHRI.........",
    "aSHARADA SIGN CANDRABINDUcANUSVARAcVISARGAbLETTER AcAAcIcIIcUcUUcVOCALIC RdRRdLdLLcEcAIcO",
    "cAUcKAcKHAcGAcGHAcNGAcCAcCHAcJAcJHAcNYAcTTAcTTHAcDDAcDDHAcNNAcTAcTHAcDAcDHAcNAcPAcPHAcBA",
    "cBHAcMAcYAcRAcLAcLLAcVAcSHAcSSAcSAcHAbVOWEL SIGN AAdIdIIdUdUUdVOCALIC ReRReLeLLdEdAIdOdAU",
    "bSIGN VIRAMAcAVAGRAHAcJIHVAMULIYAcUPADHMANIYAbOMbDANDAbDOUBLE:1bABBREVIATION SIGNbSEPARATOR",
    "bSANDHI MARKbSIGN NUKTAbVOWEL MODIFIER MARKbEXTRA SHORT VOWEL:1bSUTRA:1",
    "bVOWEL SIGN PRISHTHAMATRA EbSIGN INVERTED CANDRABINDUbDIGIT ZEROcONEcTWOcTHREEcFOURcFIVE",
    "cSIXcSEVENcEIGHTcNINEbEKAMbSIGN SIDDHAMbHEADSTROKEbCONTINUATION SIGNbSECTION MARK-1+.",
    "aSINHALA ARCHAIC DIGIT ONEdTWOdTHREEdFOURdFIVEdSIXdSEVENdEIGHTdNINEcNUMBER TENdTWENTY",
    "dTHIRTYdFORTYdFIFTYdSIXTYdSEVENTYdEIGHTYdNINETYdONE HUNDREDeTHOUSAND...........",
    "aKHOJKI LETTER AcAAcIcUcEcAIcOcAUcKAcKHAcGAcGGAcGHAcNGAcCAcCHAcJAcJJA.cNYAcTTAcTTHAcDDA",
    "cDDHAcNNAcTAcTHAcDAcDDDAcDHAcNAcPAcPHAcBAcBBAcBHAcMAcYAcRAcLAcVAcSAcHAcLLAbVOWEL SIGN AAdI",
    "dIIdUdEdAIdOdAUbSIGN ANUSVARAcVIRAMAcNUKTAcSHADDAbDANDAbDOUBLE:1bWORD SEPARATOR",
    "bSECTION MARKbDOUBLE:2bABBREVIATION SIGNbSIGN SUKUN"]),
  (70272, [
    "aMULTANI LETTER AcIcUcEcKAcKHAcGA.cGHA.cCAcCHAcJAcJJA.cNYAcTTAcTTHAcDDAcDDDAcDDHAcNNAcTA",
    "cTHAcDAcDHAcNAcPAcPHAcBA.cBHAcMAcYAcRAcLAcVAcSAcHAcRRAcRHAbSECTION MARK......",
    "aKHUDAWADI LETTER AcAAcIcIIcUcUUcEcAIcOcAUcKAcKHAcGAcGGAcGHAcNGAcCAcCHAcJAcJJAcJHAcNYAcTTA",
    "cTTHAcDDAcDDDAcRRAcDDHAcNNAcTAcTHAcDAcDHAcNAcPAcPHAcBAcBBAcBHAcMAcYAcRAcLAcVAcSHAcSAcHA",
    "bSIGN ANUSVARAbVOWEL SIGN AAdIdIIdUdUUdEdAIdOdAUbSIGN NUKTAcVIRAMA.....bDIGIT ZEROcONEcTWO",
    "cTHREEcFOURcFIVEcSIXcSEVENcEIGHTcNINE......aGRANTHA SIGN COMBINING ANUSVARA ABOVE",
    "cCANDRABINDUcANUSVARAcVISARGA.bLETTER AcAAcIcIIcUcUUcVOCALIC RdL..cEEcAI..cOOcAUcKAcKHAcGA",
    "cGHAcNGAcCAcCHAcJAcJHAcNYAcTTAcTTHAcDDAcDDHAcNNAcTAcTHAcDAcDHAcNA.cPAcPHAcBAcBHAcMAcYAcRA.",
    "cLAcLLA.cVAcSHAcSSAcSAcHA.aCOMBINING BINDU BELOWaGRANTHA SIGN NUKTAcAVAGRAHAbVOWEL SIGN AA",
    "dIdIIdUdUUdVOCALIC ReRR..dEEdAI..dOOdAUbSIGN VIRAMA..bOM......bAU LENGTH MARK.....",
    "bSIGN PLUTAbLETTER VEDIC ANUSVARAdDOUBLE:1cVOCALIC RRdLLbVOWEL SIGN VOCALIC LeLL..",
    "aCOMBINING GRANTHA DIGIT ZEROdONEdTWOdTHREEdFOURdFIVEdSIX...cLETTER AdKAdNAdVIdPA"]),
  (70656, [
    "aNEWA LETTER AcAAcIcIIcUcUUcVOCALIC RdRRdLdLLcEcAIcOcAUcKAcKHAcGAcGHAcNGAcNGHAcCAcCHAcJA",
    "cJHAcNYAcNYHAcTTAcTTHAcDDAcDDHAcNNAcTAcTHAcDAcDHAcNAcNHAcPAcPHAcBAcBHAcMAcMHAcYAcRAcRHAcLA",
    "cLHAcWAcSHAcSSAcSAcHAbVOWEL SIGN AAdIdIIdUdUUdVOCALIC ReRReLeLLdEdAIdOdAUbSIGN VIRAMA",
    "cCANDRABINDUcANUSVARAcVISARGAcNUKTAcAVAGRAHAcFINAL ANUSVARAbOMbSIDDHIbDANDAbDOUBLE:1bCOMMA",
    "bGAP FILLERbABBREVIATION SIGNbDIGIT ZEROcONEcTWOcTHREEcFOURcFIVEcSIXcSEVENcEIGHTcNINE",
    "bDOUBLE COMMAbPLACEHOLDER MARK.bINSERTION SIGNbSANDHI MARKbLETTER VEDIC ANUSVARA",
    "bSIGN JIHVAMULIYAcUPADHMANIYA..............................aTIRHUTA ANJIbLETTER AcAAcIcIIcU",
    "cUUcVOCALIC RdRRdLdLLcEcAIcOcAUcKAcKHAcGAcGHAcNGAcCAcCHAcJAcJHAcNYAcTTAcTTHAcDDAcDDHAcNNA",
    "cTAcTHAcDAcDHAcNAcPAcPHAcBAcBHAcMAcYAcRAcLAcVAcSHAcSSAcSAcHAbVOWEL SIGN AAdIdIIdUdUU",
    "dVOCALIC ReRReLeLLdEdSHORT EdAIdOdSHORT OdAUbSIGN CANDRABINDUcANUSVARAcVISARGAcVIRAMAcNUKTA",
    "cAVAGRAHAbGVANGbABBREVIATION SIGNbOM........bDIGIT ZEROcONEcTWOcTHREEcFOURcFIVEcSIXcSEVEN",
    "cEIGHTcNINE"]),
  (71040, [
    "aSIDDHAM LETTER AcAAcIcIIcUcUUcVOCALIC RdRRdLdLLcEcAIcOcAUcKAcKHAcGAcGHAcNGAcCAcCHAcJAcJHA",
    "cNYAcTTAcTTHAcDDAcDDHAcNNAcTAcTHAcDAcDHAcNAcPAcPHAcBAcBHAcMAcYAcRAcLAcVAcSHAcSSAcSAcHA",
    "bVOWEL SIGN AAdIdIIdUdUUdVOCALIC ReRR..dEdAIdOdAUbSIGN CANDRABINDUcANUSVARAcVISARGAcVIRAMA",
    "cNUKTAcSIDDHAMbDANDAbDOUBLE:1bSEPARATOR DOTcBARbREPETITION MARK-1++bEND OF TEXT MARK",
    "bSECTION MARK WITH TRIDENT AND U-SHAPED ORNAMENTSgDOTTED CRESCENTSeRAYS:3hDOUBLE:1hTRIPLE:1",
    "dDOUBLE RINGfWITH RAYSdWITH DOUBLE CRESCENTSeTRIPLE:1eQUADRUPLE:1eSEPTUPLE:1",
    "eCIRCLES AND RAYSgTWO ENCLOSURESgFOUR:1bLETTER THREE-CIRCLE ALTERNATE IcTWO-CIRCLE:2eII",
    "cALTERNATE UbVOWEL SIGN:2eUU..................................aMODI LETTER AcAAcIcIIcUcUU",
    "cVOCALIC RdRRdLdLLcEcAIcOcAUcKAcKHAcGAcGHAcNGAcCAcCHAcJAcJHAcNYAcTTAcTTHAcDDAcDDHAcNNAcTA",
    "cTHAcDAcDHAcNAcPAcPHAcBAcBHAcMAcYAcRAcLAcVAcSHAcSSAcSAcHAcLLAbVOWEL SIGN AAdIdIIdUdUU",
    "dVOCALIC ReRReLeLLdEdAIdOdAUbSIGN ANUSVARAcVISARGAcVIRAMAcARDHACANDRAbDANDAbDOUBLE:1",
    "bABBREVIATION SIGNbSIGN HUVA...........bDIGIT ZEROcONEcTWOcTHREEcFOURcFIVEcSIXcSEVENcEIGHT",
    "cNINE......aMONGOLIAN BIRGA WITH ORNAMENTbROTATED BIRGAbDOUBLE BIRGA WITH ORNAMENTbTRIPLE:3",
    "bBIRGA WITH DOUBLE:1bROTATED BIRGA WITH:1eDOUBLE:1bINVERTED BIRGAdWITH DOUBLE ORNAMENT",
    "bSWIRL BIRGAdWITH ORNAMENTeDOUBLE:1bTURNED:5...................aTAKRI LETTER AcAAcIcIIcUcUU",
    "cEcAIcOcAUcKAcKHAcGAcGHAcNGAcCAcCHAcJAcJHAcNYAcTTAcTTHAcDDAcDDHAcNNAcTAcTHAcDAcDHAcNAcPA",
    "cPHAcBAcBHAcMAcYAcRAcLAcVAcSHAcSAcHAcRRAbSIGN ANUSVARAcVISARGAbVOWEL SIGN AAdIdIIdUdUUdEdAI",
    "dOdAUbSIGN VIRAMAcNUKTAbLETTER ARCHAIC KHAbABBREVIATION SIGN......bDIGIT ZEROcONEcTWOcTHREE",
    "cFOURcFIVEcSIXcSEVENcEIGHTcNINE"]),
  (71424, [
    "aAHOM LETTER KAcKHAcNGAcNAcTAcALTERNATE:1cPAcPHAcBAcMAcJAcCHAcTHAcRAcLAcSAcNYAcHAcAcDAcDHA",
    "cGAcALTERNATE:1cGHAcBHAcJHAcALTERNATE BA..bCONSONANT SIGN MEDIAL LAeRAeLIGATING:1",
    "bVOWEL SIGN AdAAdIdIIdUdUUdEdAWdOdAIdAMbSIGN KILLER....bDIGIT ZEROcONEcTWOcTHREEcFOURcFIVE",
    "cSIXcSEVENcEIGHTcNINEbNUMBER TENcTWENTYbSIGN SMALL SECTIONc:1cRULAIbSYMBOL VIbLETTER CAcTTA",
    "cTTHAcDDAcDDHAcNNAcLLA"]),
  (71680, [
    "aDOGRA LETTER AcAAcIcIIcUcUUcEcAIcOcAUcKAcKHAcGAcGHAcNGAcCAcCHAcJAcJHAcNYAcTTAcTTHAcDDA",
    "cDDHAcNNAcTAcTHAcDAcDHAcNAcPAcPHAcBAcBHAcMAcYAcRAcLAcVAcSHAcSSAcSAcHAcRRAbVOWEL SIGN AAdI",
    "dIIdUdUUdVOCALIC ReRRdEdAIdOdAUbSIGN ANUSVARAcVISARGAcVIRAMAcNUKTAbABBREVIATION SIGN"]),
  (71840, [
    "aWARANG CITI CAPITAL LETTER NGAAeAeWIeYUeYAeYOeIIeUUeEeOeANGeGAeKOeENYeYUJeUCeENNeODDeTTE",
    "eNUNGeDAeATeAMeBUePUeHIYOeHOLOeHORReHAReSSUUeSIIeVIYOcSMALL LETTER NGAAeAeWIeYUeYAeYOeIIeUU",
    "eEeOeANGeGAeKOeENYeYUJeUCeENNeODDeTTEeNUNGeDAeATeAMeBUePUeHIYOeHOLOeHORReHAReSSUUeSIIeVIYO",
    "cDIGIT ZEROdONEdTWOdTHREEdFOURdFIVEdSIXdSEVENdEIGHTdNINEcNUMBER TENdTWENTYdTHIRTYdFORTY",
    "dFIFTYdSIXTYdSEVENTYdEIGHTYdNINETY............cOMaDIVES AKURU LETTER AdAAdIdIIdUdUUdE..dO..",
    "dKAdKHAdGAdGHAdNGAdCAdCHAdJA.dNYAdTTA.dDDAdDDHAdNNAdTAdTHAdDAdDHAdNAdPAdPHAdBAdBHAdMAdYA",
    "dYYAdRAdLAdVAdSHAdSSAdSAdHAdLLAdZAcVOWEL SIGN AAeIeIIeUeUUeE.eAIeO..cSIGN ANUSVARA",
    "dCANDRABINDUdHALANTAcVIRAMAcPREFIXED NASAL SIGNcMEDIAL YAcINITIAL RAcMEDIAL:1cSIGN NUKTA",
    "cDOUBLE DANDAcGAP FILLERcEND OF TEXT MARK.........cDIGIT ZEROdONEdTWOdTHREEdFOURdFIVEdSIX",
    "dSEVENdEIGHTdNINE"]),
  (72096, [
    "aNANDINAGARI LETTER AcAAcIcIIcUcUUcVOCALIC RdRR..cEcAIcOcAUcKAcKHAcGAcGHAcNGAcCAcCHAcJAcJHA",
    "cNYAcTTAcTTHAcDDAcDDHAcNNAcTAcTHAcDAcDHAcNAcPAcPHAcBAcBHAcMAcYAcRAcLAcVAcSHAcSSAcSAcHAcLLA",
    "cRRAbVOWEL SIGN AAdIdIIdUdUUdVOCALIC ReRR..dEdAIdOdAUbSIGN ANUSVARAcVISARGAcVIRAMAcAVAGRAHA",
    "cSIDDHAMbHEADSTROKEbVOWEL SIGN PRISHTHAMATRA E...........................",
    "aZANABAZAR SQUARE LETTER AcVOWEL SIGN IeUEeUeEeOEeOeAIeAUeREVERSED IdLENGTH MARKcLETTER KA",
    "dKHAdGAdGHAdNGAdCAdCHAdJAdNYAdTTAdTTHAdDDAdDDHAdNNAdTAdTHAdDAdDHAdNAdPAdPHAdBAdBHAdMAdTSA",
    "dTSHAdDZAdDZHAdZHAdZAd-AdYAdRAdLAdVAdSHAdSSAdSAdHAdKSSAcFINAL CONSONANT MARKcSIGN VIRAMA",
    "dCANDRABINDUeWITH ORNAMENTdCANDRA:2dANUSVARAdVISARGAcCLUSTER-INITIAL LETTER RA",
    "cCLUSTER-FINAL LETTER YAeRAeLAeVAcINITIAL HEAD MARKcCLOSING:2cMARK TSHEGdSHADdDOUBLE:1",
    "dLONG TSHEGcINITIAL DOUBLE-LINED HEAD MARKcCLOSING:3cSUBJOINER........aSOYOMBO LETTER A",
    "bVOWEL SIGN IdUEdUdEdOdOEdAIdAUdVOCALIC ReLcLENGTH MARKbLETTER KAcKHAcGAcGHAcNGAcCAcCHAcJA",
    "cJHAcNYAcTTAcTTHAcDDAcDDHAcNNAcTAcTHAcDAcDHAcNAcPAcPHAcBAcBHAcMAcTSAcTSHAcDZAcZHAcZAc-AcYA",
    "cRAcLAcVAcSHAcSSAcSAcHAcKSSAbSIGN JIHVAMULIYAcUPADHMANIYAbCLUSTER-INITIAL LETTER RAdLAdSHA",
    "dSAbFINAL CONSONANT SIGN GeKeNGeDeNeBeMeReLeSHeSe-AbSIGN ANUSVARAcVISARGAbGEMINATION MARK",
    "bSUBJOINERbMARK TSHEGcSHADcDOUBLE:1cPLUTAbHEAD MARK WITH MOON AND SUN AND TRIPLE FLAMEi:1h",
    "bTERMINAL MARK-1+.............aCANADIAN SYLLABICS NATTILIK HIdHIIdHOdHOOdHAdHAAdSHRIdSHRII",
    "dSHROdSHROOdSHRAdSHRAAcSPEcSPIcSPOcSPAaPAU CIN HAU LETTER PAeKAeLAeMAeDAeZAeVAeNGAeHAeGA",
    "eKHAeSAeBAeCAeTAeTHAeNAePHAeRAeFAeCHAeAeEeIeOeUeUAeIAeFINAL PfKfTfMfNfLfWfNGfY",
    "dRISING TONE LONGfdSANDHI GLOTTAL STOPdRISING TONE LONG FINALf:1dSANDHI GLOTTAL STOP:1",
    "eTONE LONGffLONG FINALf:1dMID-LEVEL TONEdGLOTTAL STOP VARIANTdMID-LEVEL TONE LONG FINALf:1",
    "dLOW-FALLING TONE LONGfdGLOTTAL STOPdLOW-FALLING TONE LONG FINALf:1dGLOTTAL STOP:1"]),
  (72704, [
    "aBHAIKSUKI LETTER AcAAcIcIIcUcUUcVOCALIC RdRRdL.cEcAIcOcAUcKAcKHAcGAcGHAcNGAcCAcCHAcJAcJHA",
    "cNYAcTTAcTTHAcDDAcDDHAcNNAcTAcTHAcDAcDHAcNAcPAcPHAcBAcBHAcMAcYAcRAcLAcVAcSHAcSSAcSAcHA",
    "bVOWEL SIGN AAdIdIIdUdUUdVOCALIC ReRReL.dEdAIdOdAUbSIGN CANDRABINDUcANUSVARAcVISARGAcVIRAMA",
    "cAVAGRAHAbDANDAbDOUBLE:1bWORD SEPARATORbGAP FILLER-1+..........bDIGIT ZEROcONEcTWOcTHREE",
    "cFOURcFIVEcSIXcSEVENcEIGHTcNINEbNUMBER ONEcTWOcTHREEcFOURcFIVEcSIXcSEVENcEIGHTcNINEcTEN",
    "cTWENTYcTHIRTYcFORTYcFIFTYcSIXTYcSEVENTYcEIGHTYcNINETYbHUNDREDS UNIT MARK...aMARCHEN HEAD:1",
    "bMARK SHADbLETTER KAcKHAcGAcNGAcCAcCHAcJAcNYAcTAcTHAcDAcNAcPAcPHAcBAcMAcTSAcTSHAcDZAcWAcZHA",
    "cZAc-AcYAcRAcLAcSHAcSAcHAcA..bSUBJOINED LETTER KAdKHAdGAdNGAdCAdCHAdJAdNYAdTAdTHAdDAdNAdPA",
    "dPHAdBAdMAdTSAdTSHAdDZAdWAdZHAdZA.dYAdRAdLAdSHAdSAdHAdAbVOWEL SIGN AAdIdUdEdObSIGN ANUSVARA",
    "cCANDRABINDU"]),
  (72960, [
    "aMASARAM GONDI LETTER AdAAdIdIIdUdUUdE.dAIdO.dAUdKAdKHAdGAdGHAdNGAdCAdCHAdJAdJHAdNYAdTTA",
    "dTTHAdDDAdDDHAdNNAdTAdTHAdDAdDHAdNAdPAdPHAdBAdBHAdMAdYAdRAdLAdVAdSHAdSSAdSAdHAdLLAdKSSA",
    "dJNYAdTRAcVOWEL SIGN AAeIeIIeUeUUeVOCALIC R...eE.eAIeO.eAUcSIGN ANUSVARAdVISARGAdNUKTA",
    "dCANDRAdHALANTAcVIRAMAcREPHAcRA-KARA........cDIGIT ZEROdONEdTWOdTHREEdFOURdFIVEdSIXdSEVEN",
    "dEIGHTdNINE......aGUNJALA GONDI LETTER AdAAdIdIIdUdUU.dEEdAI.dOOdAUdYAdVAdBAdBHAdMAdKAdKHA",
    "dTAdTHAdLAdGAdGHAdDAdDHAdNAdCAdCHAdTTAdTTHAdLLAdJAdJHAdDDAdDDHAdNGAdPAdPHAdHAdRAdSA",
    "cVOWEL SIGN AAeIeIIeUeUU.eEEeAI.eOOeAUcSIGN ANUSVARAdVISARGAcVIRAMAcOM.......cDIGIT ZERO",
    "dONEdTWOdTHREEdFOURdFIVEdSIXdSEVENdEIGHTdNINE"]),
  (73440, [
    "aMAKASAR LETTER KAcGAcNGAcPAcBAcMAcTAcDAcNAcCAcJAcNYAcYAcRAcLAcVAcSAcAbANGKAbVOWEL SIGN IdU",
    "dEdObPASSIMBANGbEND OF SECTION"]),
  (73648, [
    "aLISU LETTER YHA...............aTAMIL FRACTION ONE THREE-HUNDRED-AND-TWENTIETH",
    "dONE-HUNDRED-AND-SIXTIETHdEIGHTIETHdSIXTY-FOURTHdFORTIETHdTHIRTY-SECONDcTHREE EIGHTIETHS",
    "dSIXTY-FOURTHScONE TWENTIETHdSIXTEENTH-1+dTENTHdEIGHTHcTHREE TWENTIETHSdSIXTEENTHS",
    "cONE FIFTHdQUARTERdHALF-1+cTHREE QUARTERScDOWNSCALING FACTOR KIIZHbSIGN NELcCEVITU",
    "cAAZHAAKKUcUZHAKKUcMUUVUZHAKKUcKURUNIcPATHAKKUcMUKKURUNIcKAACUcPANAMcPONcVARAAKANcPAARAM",
    "cKUZHIcVELIbWET CULTIVATION SIGNbDRY:2bLAND:1bSALT PAN:1bTRADITIONAL CREDIT:1cNUMBER:1",
    "bCURRENT:1bAND ODD:1bSPENT:1bTOTAL:1bIN POSSESSION:1bSTARTING FROM:1bSIGN MUTHALIYA",
    "cVAKAIYARAA.............bPUNCTUATION END OF TEXTaCUNEIFORM SIGN AdTIMES AeBADeGAN2 TENUeHA",
    "eIGIeLAGAR GUNUeMUSHeSAGcA2cABdTIMES ASH2eDUN3 GUNUeGALeGAN2 TENUeHAeIGI GUNUeIMINeLAGAB",
    "eSHESHeU PLUS U PLUS UdGUNUcAB2dTIMES BALAGeGAN2 TENUeME PLUS ENeSHA3eTAK4cADcAK",
    "dTIMES ERIN2eSHITA PLUS GISHcALdTIMES ALeDIM2eGISHeHAeKAD3eKIeSHEeUSHcALANcALEPHcAMAR",
    "dTIMES SHEcANdOVER ANdTHREE TIMESdPLUS NAGA OPPOSING AN PLUS NAGAfSQUAREDcANSHEcAPINcARAD",
    "dTIMES KURcARKABcASAL2cASHdZIDA TENUdKABA:1dOVER ASH TUG2 OVER TUG2 TUG2 OVER TUG2 PAP",
    "fOVER ASHhCROSSING ASH OVER ASH OVER ASHcASH2cASHGABcBAcBADcBAG3cBAHAR2cBALdOVER BALcBALAG",
    "cBARcBARA2cBIdTIMES AeGAReIGI GUNUcBUdOVER BU ABfUNdCROSSING BUcBULUGdOVER BULUGcBURcBUR2",
    "cDAcDAGdKISIM5 TIMES A PLUS MASHfAMARfBALAGfBIfGAgPLUS MASHfGIfGIR2fGUDfHAfIRgPLUS LUfKAK",
    "fLAfLUgPLUS MASH2fLUMfNEfPAP PLUS PAPfSIfTAK4fU2 PLUS GIR2fUSHcDAMcDARcDARA3+cDIcDIBcDIM",
    "dTIMES SHEcDIM2cDINdKASKAL U GUNU DISHc:1cDUdOVER DUdGUNUdSHESHIGcDUBdTIMES ESH2cDUB2cDUG",
    "cDUGUDcDUHcDUNcDUN3dGUNUeGUNUcDUN4cDUR2cEdTIMES PAPdOVER E NUN OVER NUNcE2",
    "dTIMES A PLUS HA PLUS DAeGAReMIeSALeSHEeUcEDINcEGIRcELcENdTIMES GAN2fTENUeMEdCROSSING EN",
    "dOPPOSING:1dSQUAREDcERENcERIN2cESH2cEZENdTIMES AfPLUS LALhTIMES LALeANeBADeDUN3 GUNUgGUNU",
    "eHAfGUNUeIGI:1eKASKALfSQUAREDeKU3eLAeLAL TIMES LALeLIeLUeU2eUDcGAdGUNUcGA2",
    "dTIMES A PLUS DA PLUS HAgHAgIGIeAB2 TENU PLUS TABeANeASHeASH2 PLUS GALeBADeBAR PLUS RAeBUR",
    "fPLUS RAeDAeDIeDIM TIMES SHEeDUBeELfPLUS LAeENfTIMES GAN2 TENUe:2eGAReGIeGI4fPLUS A",
    "eGIR2 PLUS SUeHA PLUS LU PLUS ESH2eHALfPLUS LAeHI PLUS LIeHUB2eIGI GUNU",
    "eISH PLUS HU PLUS ASHeKAKeKASKALeKIDfPLUS LALeKU3 PLUS ANeLAeME PLUS ENeMIeNUNfOVER NUNePA",
    "eSALeSAReSHEfPLUS TUReSHIDeSUMeTAK4eUeUDfPLUS DUdOVER GA2cGABAdCROSSING GABAcGAD",
    "dOVER GAD GAR OVER GARcGALdGAD OVER GAD GAR OVER GARcGALAMcGAMcGANcGAN2dTENUdOVER GAN2",
    "dCROSSING:1cGARcGAR3cGASHANcGESHTINdTIMES KURcGIdTIMES EeUdCROSSING GIcGI4dOVER GI4",
    "dCROSSING:1cGIDIMcGIR2dGUNUcGIR3dTIMES A PLUS IGIeGAN2 TENUeIGIeLU PLUS:1ePAcGISALcGISH",
    "dCROSSING GISHdTIMES BADeTAK4dTENUcGUdCROSSING GUcGU2dTIMES KAKfTIMES IGI GUNUeNUN",
    "eSAL PLUS TUG2dGUNUcGUDdTIMES A PLUS KURe:1dOVER GUD LUGALcGULcGUMdTIMES SHEcGURcGUR7cGURUN",
    "cGURUSHcHAdTENUdGUNUcHALcHIdTIMES ASHeASH2eBADeDISHeGADeKINeNUNeSHEeUcHUcHUB2dTIMES ANeHAL",
    "eKASKALeLISHeUDcHUL2cIdAcIBcIDIMdOVER IDIM BURfSQUAREDcIGcIGIdDIBdRI",
    "dOVER IGI SHIR OVER SHIR UD OVER UDdGUNUcILdTIMES GAN2 TENUcIL2cIMdTIMES TAK4dCROSSING IM",
    "dOPPOSING:1dSQUAREDcIMINcINcIRcISHcKAdTIMES AeADfPLUS KU3eASH2eBADeBALAGeBAReBIeERIN2eESH2",
    "eGAeGALeGAN2 TENUeGARfPLUS SHA3 PLUS AeGIeGIR2eGISH PLUS SARfCROSSING GISHeGUeGUR7eIGIeIM",
    "eKAKeKIeKIDeLIeLUeMEfPLUS DUgGIgTEeMIfPLUS NUNUZeNEeNUNePIeRUeSAeSAReSHAeSHEeSHIDeSHUeSIG",
    "eSUHUReTAReUeU2eUDeUMUM TIMES PAeUSHeZIcKA2dCROSSING KA2cKABcKAD2+++dOVER KAD5cKAK",
    "dTIMES IGI GUNUcKALdTIMES BADdCROSSING KALcKAM2cKAM4cKASKAL",
    "dLAGAB TIMES U OVER LAGAB TIMES UdOVER KASKAL:7cKESH2cKIdTIMES BADeUeUDcKIDcKINcKISALcKISH",
    "cKISIM5dOVER KISIM5cKUdOVER HI TIMES ASH2 KU OVER HI TIMES ASH2cKU3+dVARIANT FORMcKU7cKUL",
    "dGUNUcKUNcKURdOPPOSING KURcKUSHU2cKWU318cLAcLAGABdTIMES AfPLUS DA PLUS HAgGARgLALeALeAN",
    "eASH ZIDA TENUeBADeBIeDAReENeGAeGAReGUDfPLUS GUDeHAeHALeHI TIMES NUNeIGI GUNUeIMfPLUS HAgLU",
    "eKIeKINeKU3eKULfPLUS HI PLUS AeLAGABeLISHeLUeLULeMEfPLUS ENeMUSHeNEeSHE PLUS SUM",
    "eSHITA PLUS GISH PLUS ERIN2hTENUeSHU2fPLUS SHU2eSUMeTAGeTAK4eTE PLUS A PLUS SU PLUS NAeU",
    "fPLUS AgU PLUS UeU2 PLUS ASHeUDeUSHdSQUAREDcLAGARdTIMES SHEfPLUS SUMdGUNU",
    "eOVER LAGAR GUNU SHEcLAHSHUcLALdTIMES LALcLAMdTIMES KURfPLUS RUcLIcLILcLIMMU2cLISHcLU",
    "dTIMES BADcLU2dTIMES ALeBADeESH2fTENUeGAN2:1eHI TIMES BADeIMeKAD2+fPLUS ASHeKIeLA PLUS ASH",
    "eLAGABeME PLUS ENeNEeNUeSI PLUS ASHeSIK2 PLUS BUeTUG2dTENUdCROSSING LU2dOPPOSING:1dSQUARED",
    "dSHESHIGcLU3cLUGALdOVER LUGALdOPPOSING:1dSHESHIGcLUHcLULcLUMdOVER LUMfGAR OVER GARcMA",
    "dTIMES TAK4dGUNUcMA2cMAHcMARcMASHcMASH2cMEcMEScMIcMINcMUdOVER MUcMUGdGUNUcMUNSUBcMURGU2",
    "cMUSHdTIMES AeKUReZAdOVER MUSHfTIMES A PLUS NAdCROSSING MUSHcMUSH3dTIMES AfPLUS DIeDIdGUNU",
    "cNAcNA2cNAGAdINVERTEDdTIMES SHU TENUdOPPOSING NAGAcNAGARcNAM NUTILLUdcNAM2cNEdTIMES AeUD",
    "dSHESHIGcNIdTIMES EcNI2cNIMdTIMES GAN2 TENUeGAR PLUS:2cNINDA2dTIMES ANeASHfPLUS ASHeGUD",
    "eME PLUS GAN2 TENUeNEeNUNeSHEfPLUS A ANgASHhPLUS ASHeU2:2eUSHcNISAGcNUcNU11cNUN",
    "dLAGAR TIMES GARfMASHfSALgOVER NUN LAGAR TIMES SALfUSHdTENUdOVER NUNdCROSSING:1",
    "fLAGAR OVER LAGARcNUNUZdAB2 TIMES ASHGABfBIfDUGfGUDfIGI GUNUfKAD3fLAfNEfSILA3fU2",
    "dKISIM5 TIMES BIgUcPAcPADcPANcPAPcPESH2cPIdTIMES AeABeBIeBUeEeIeIBeUeU2dCROSSING PIcPIRIG",
    "dTIMES KALeUDeZAdOPPOSING PIRIGcRAcRABcRIcRUcSAcSAG NUTILLUddTIMES AeDUeDUBeHAeKAKeKUReLUM",
    "eMIeNUNeSALeSHIDeTABeU2eUBeUMeUReUSHdOVER SAGdGUNUcSALdLAGAB TIMES ASH2cSANGA2cSARcSHAcSHA3",
    "dTIMES AeBADeGISHeNEeSHU2eTUReUfPLUS AcSHA6cSHAB6cSHAR2cSHEdHU",
    "dOVER SHE GAD OVER GAD GAR OVER GARfTAB OVER TAB:3cSHEG9cSHENcSHESHcSHESH2cSHESHLAMcSHID",
    "dTIMES AeIMcSHIMdTIMES AeBALeBULUGeDINeGAReIGIfGUNUeKUSHU2eLULeMUGeSALcSHINIGcSHIRdTENU",
    "dOVER SHIR BUR OVER BURcSHITAcSHUdOVER INVERTED SHUcSHU2cSHUBURcSIdGUNUcSIGcSIG4",
    "dOVER SIG4 SHU2cSIK2cSILA3cSUdOVER SUcSUDcSUD2cSUHURcSUMcSUMASHcSURcSUR9cTAdASTERISK",
    "dTIMES HIeMIdGUNUcTABdOVER TAB NI OVER NI DISH OVER DISHdSQUAREDcTAGdTIMES BIeGUDeSHEeSHU",
    "eTUG2eUDcTAK4cTARcTEdGUNUcTIdTENUcTILcTIRdTIMES TAK4dOVER TIRfGAD OVER GAD GAR OVER GARcTU",
    "cTUG2cTUKcTUMcTURdOVER TUR ZA OVER ZAcUdGUDdU UdOVER U PA OVER PA GAR OVER GARfSUR OVER SUR",
    "fU REVERSED OVER U REVERSEDcU2cUBcUDdKUSHU2dTIMES BADeMIeU PLUS U PLUS UjGUNUd:1dSHESHIG",
    "eTIMES BADcUDUGcUMdTIMES LAGABeME PLUS DAeSHA3eUcUMBINcUMUMdTIMES KASKALePAcUNdGUNUcUR",
    "dCROSSING URdSHESHIGcUR2dTIMES A PLUS HAgNAeALeHAeNUNeU2fPLUS ASHgBIcUR4cURIcURI3cURU",
    "dTIMES AeASHGABeBAReDUNeGAeGALeGAN2 TENUeGAReGUeHAeIGIeIMeISHeKIeLUMeMINePAeSHEeSIG4eTU",
    "eU PLUS GUDeUDeURUDAc:1dTIMES UcUSHdTIMES AeKUeKUReTAK4cUSHXcUSH2cUSHUMXcUTUKIcUZ3",
    "dTIMES KASKALcUZUcZAdTENUdSQUARED TIMES KURcZAGcZAMXcZE2cZIdOVER ZIcZI3cZIBdKABA TENUcZIG",
    "cZIZ2cZUcZU5dTIMES AcZUBURcZUMcKAP ELAMITEcAB TIMES NUNcAB2 TIMES AcAMAR TIMES KUG",
    "cDAG KISIM5 TIMES U2 PLUS MASHcDAG3cDISH PLUS SHUcDUB TIMES SHEcEZEN TIMES GUDeSHE",
    "cGA2 TIMES AN PLUS KAK PLUS AeASH2cGE22cGIGcHUSHcKA TIMES ANSHEeASH3eGISHeGUDeHI TIMES ASH2",
    "eLUMePAeSHULeTUeUR2cLAGAB TIMES GIcLU2 SHESHIG TIMES BADdTIMES ESH2 PLUS LALeSHUcMESH",
    "cMUSH3 TIMES ZAcNA4cNINcNIN9cNINDA2 TIMES BALeGIcNU11 ROTATED NINETY DEGREEScPESH2 ASTERISK",
    "cPIR2cSAG TIMES IGI GUNUcTI2cUM TIMES MEcU U"]),
  (74752, [
    "aCUNEIFORM NUMERIC SIGN TWO ASHdTHREE:1dFOUR:1dFIVE:1dSIX:1dSEVEN:1dEIGHT:1dNINE:1",
    "dTHREE DISHdFOUR:1dFIVE:1dSIX:1dSEVEN:1dEIGHT:1dNINE:1dFOUR UdFIVE UdSIX UdSEVEN UdEIGHT U",
    "dNINE UdONE GESH2dTWO:1dTHREE:1dFOUR:1dFIVE:1dSIX:1dSEVEN:1dEIGHT:1dNINE:1dONE GESHUdTWO:1",
    "dTHREE:1dFOUR:1dFIVE:1dTWO SHAR2dTHREE:1fVARIANT FORMdFOUR SHAR2dFIVE:1dSIX:1dSEVEN:1",
    "dEIGHT:1dNINE:1dONE SHARUdTWO:1dTHREE:1fVARIANT FORMdFOUR SHARUdFIVE:1",
    "dSHAR2 TIMES GAL PLUS DISHhMINdONE BURUdTWO:1dTHREE:1fVARIANT FORMdFOUR BURUdFIVE:1",
    "dTHREE VARIANT FORM ESH16gESH21dFOUR VARIANT FORM LIMMUgLIMMU4gLIMMU AhB",
    "dSIX VARIANT FORM ASH9dSEVEN VARIANT FORM IMIN3gIMIN AhBdEIGHT VARIANT FORM USSUgUSSU3",
    "dNINE VARIANT FORM ILIMMUgILIMMU3+gILIMMU AdTWO ASH TENUdTHREE:2dFOUR:2dFIVE:2dSIX:2",
    "dONE BAN2dTWO:1dTHREE:1dFOUR:1fVARIANT FORMdFIVE BAN2fVARIANT FORMdNIGIDAMINdNIGIDAESH",
    "dONE ESHE3dTWO:1dONE THIRD DISHdTWO THIRDS:1dFIVE SIXTHS:1dONE THIRD VARIANT FORM A",
    "dTWO THIRDS:3dONE EIGHTH ASHeQUARTER:1dOLD ASSYRIAN ONE SIXTHgQUARTERdONE QUARTER GUR",
    "eHALF:1dELAMITE ONE THIRDeTWO THIRDSeFORTYeFIFTYdFOUR U VARIANT FORMdFIVE:3dSIX:3dSEVEN:3",
    "dEIGHT:3dNINE:3.bPUNCTUATION SIGN OLD ASSYRIAN WORD DIVIDERdVERTICAL COLONdDIAGONAL:1",
    "eTRICOLONeQUADCOLON...........bSIGN AB TIMES NUN TENUeSHU2cAD TIMES ESH2",
    "cBAD TIMES DISH TENUcBAHAR2 TIMES AB2eNIeZAcBU OVER BU TIMES NA2cDA TIMES TAK4",
    "cDAG TIMES KURcDIM TIMES IGIeU U UcDIM2 TIMES UDcDUG TIMES ANSHEeASHfAT LEFTeDINeDUNeERIN2",
    "eGAeGIeGIR2 GUNUeGISHeHAeHIeIGI GUNUeKASKALeKUReKUSHU2fPLUS KASKALeLAK-020eLAMfTIMES KUR",
    "eLUH PLUS GISHeMASHeMESeMIeNIePIeSHEeSI GUNUcE2 TIMES KURePAPcERIN2 XcESH2 CROSSING ESH2",
    "cEZEN SHESHIG TIMES ASHfHIfIGI GUNUfLAfLALfMEfMESfSUd:2cGA2 TIMES BAHAR2eDIM GUNU",
    "eDUG TIMES IGI:1gKASKALeERENeGAeGAR PLUS DIgNEeHA PLUS AeKUSHU2 PLUS KASKALeLAMfTIMES KUR",
    "eLUHeMUSHeNEfPLUS E2gGIeSHIMeZIZ2cGABA ROTATED NINETY DEGREEScGESHTIN TIMES U",
    "cGISH TIMES GISH CROSSING GISHcGU2 TIMES IGI GUNUcGUD PLUS GISH TIMES TAK4cHA TENU GUNU",
    "cHI TIMES ASH OVER HI TIMES ASHcKA TIMES BUeKAeU U UeURcLAGAB TIMES ZU OVER ZUcLAK-003",
    "cLAK-021cLAK-025cLAK-030cLAK-050+cLAK-062cLAK-079 OVER LAK-079 GUNUcLAK-080",
    "cLAK-081 OVER LAK-081cLAK-092cLAK-130cLAK-142cLAK-210cLAK-219+cLAK-225cLAK-228cLAK-238",
    "cLAK-265+cLAK-343cLAK-347+cLAK-383+cLAK-390cLAK-441cLAK-449dTIMES GUeIGIePAP PLUS LU3",
    "gPAP PLUS:1eU2 PLUS BAcLAK-450cLAK-457cLAK-470cLAK-483cLAK-490cLAK-492+cLAK-495cLAK-550",
    "cLAK-608cLAK-617dTIMES ASHeBADeDUN3 GUNU GUNUeKU3eLAeTAReTEeU2eUDeURUDAcLAK-636cLAK-648",
    "dTIMES DUBeGAeIGIfGUNUeNIePAP PLUS PAP PLUS LU3eSHESH PLUS KIeUDeURUDAcLAK-724cLAK-749",
    "cLU2 GUNU TIMES ASHdTIMES DISHeHALePAPfPLUS PAP PLUS LU3eTAK4cMI PLUS ZA7",
    "cMUSH OVER MUSH TIMES GAgKAKcNINDA2 TIMES DIM GUNUeGISHeGULeHIeKESH2eLAK-050eMASH",
    "ePAP PLUS PAPeUfPLUS UeURUDAcSAG GUNU TIMES HAdTIMES ENeSHE AT LEFTeTAK4cSHA6 TENU",
    "cSHE OVER SHEdPLUS HUB2eNAM2eSARcSHU2 PLUS DUG TIMES NIeE2 TIMES ANcSI TIMES TAK4",
    "cTAK4 PLUS SAGcTUM TIMES GAN2 TENUeTHREE DISHcUR2 INVERTEDdTIMES UDcURU TIMES DARA3eLAK-668",
    "eLU3cZA7cZU OVER ZU PLUS SARcZU5 TIMES THREE DISH TENU"]),
  (77712, [
    "aCYPRO-MINOAN SIGN CM001+cCM004++++++++cCM012BcCM013cCM015cCM017cCM019cCM021cCM023+++++++",
    "cCM033++++++++cCM044cCM046+cCM049+++++++cCM058++++++cCM066+++++++++cCM075BcCM076cCM078+++++",
    "+++++++++cCM094+++++++++++cCM107+++cCM112cCM114cCM301+.............",
    "aEGYPTIAN HIEROGLYPH A001++++cA005AcA006cA006AcA006BcA007+++++++cA014AcA015++cA017AcA018+++",
    "+++++++++++cA032AcA033+++++++cA040AcA041+cA042AcA043cA043AcA044+cA045AcA046++++++++++++++++",
    "++++++++cB001++++cB005AcB006+++cC001+cC002AcC002BcC002CcC003+++++++cC010AcC011+++++++++++++",
    "cD001+++++++cD008AcD009++++++++++++++++++cD027AcD028+++cD031AcD032++cD034AcD035+++++++++++",
    "cD046AcD047+cD048AcD049+cD050AcD050BcD050CcD050DcD050EcD050FcD050GcD050HcD050IcD051+cD052A",
    "cD053+cD054AcD055++++++++++++cD067AcD067BcD067CcD067DcD067EcD067FcD067GcD067HcE001+++++++",
    "cE008AcE009cE009AcE010++++++cE016AcE017cE017AcE018++cE020AcE021+++++++cE028AcE029+++++",
    "cE034AcE036++cF001cF001AcF002+++++++++++cF013AcF014+++++++cF021AcF022+++++++++cF031AcF032++",
    "+++cF037AcF038cF038AcF039++++++cF045AcF046cF046AcF047cF047AcF048+++cF051AcF051BcF051CcF052+",
    "cG001+++++cG006AcG007cG007AcG007BcG008+++cG011AcG012++++++++cG020AcG021+++++cG026AcG027++++",
    "+++++cG036AcG037cG037AcG038+++++cG043AcG044+cG045AcG046++++++++cH001+++++cH006AcH007+cI001+",
    "+++cI005AcI006+++cI009AcI010cI010AcI011cI011AcI012+++cK001+++++++cL001+cL002AcL003+++cL006A",
    "cL007+cM001cM001AcM001BcM002+cM003AcM004++++++cM010AcM011+cM012AcM012BcM012CcM012DcM012E",
    "cM012FcM012GcM012HcM013++cM015AcM016cM016AcM017cM017AcM018++++cM022AcM023+cM024AcM025+++",
    "cM028AcM029++cM031AcM032+cM033AcM033BcM034++++++cM040AcM041+++cN001+++++++++++++++++cN018A",
    "cN018BcN019++++++cN025AcN026+++++++cN033AcN034cN034AcN035cN035AcN036+cN037AcN038++++cNL001+",
    "+++cNL005AcNL006+++++++++++cNL017AcNL018++cNU001+++++++++cNU010AcNU011cNU011AcNU012++++++",
    "cNU018AcNU019+++cNU022AcO001cO001AcO002+++cO005AcO006cO006AcO006BcO006CcO006DcO006EcO006F",
    "cO007+++cO010AcO010BcO010CcO011++++++++cO019AcO020cO020AcO021+++cO024AcO025cO025AcO026+++",
    "cO029AcO030cO030AcO031++cO033AcO034++cO036AcO036BcO036CcO036DcO037+++++++++++++cO050AcO050B",
    "cO051cP001cP001AcP002+cP003AcP004+++++++cQ001++++++cR001+cR002AcR003cR003AcR003BcR004++++++",
    "cR010AcR011+++++cR016AcR017++++++++++++cS001+cS002AcS003+++cS006AcS007+++++++cS014AcS014B",
    "cS015++cS017AcS018++++++++cS026AcS026BcS027++++++++cS035AcS036++++++++++cT001++cT003AcT004+",
    "++cT007AcT008cT008AcT009cT009AcT010+cT011AcT012++++cT016AcT017+++++++++++++++cT032AcT033",
    "cT033AcT034++cU001+++++cU006AcU006BcU007++++++++++++++++cU023AcU024+++++cU029AcU030++cU032A",
    "cU033+++++++++cV001cV001AcV001BcV001CcV001DcV001EcV001FcV001GcV001HcV001IcV002cV002AcV003++",
    "++cV007AcV007BcV008+++cV011AcV011BcV011CcV012cV012AcV012BcV013+++++++cV020AcV020BcV020C",
    "cV020DcV020EcV020FcV020GcV020HcV020IcV020JcV020KcV020LcV021++cV023AcV024++++cV028AcV029",
    "cV029AcV030cV030AcV031cV031AcV032+cV033AcV034+++cV037AcV038++cV040AcW001++cW003AcW004+++++",
    "cW009AcW010cW010AcW011+++cW014AcW015++cW017AcW018cW018AcW019+++++cW024AcW025cX001+++cX004A",
    "cX004BcX005+cX006AcX007+cX008AcY001cY001AcY002++++++cZ001+cZ002AcZ002BcZ002CcZ002DcZ003",
    "cZ003AcZ003BcZ004cZ004AcZ005cZ005AcZ006+++++++++cZ015AcZ015BcZ015CcZ015DcZ015EcZ015FcZ015G",
    "cZ015HcZ015IcZ016cZ016AcZ016BcZ016CcZ016DcZ016EcZ016FcZ016GcZ016HcAA001++++++cAA007AcAA007B",
    "cAA008++++++++++++++++++++++++.cVERTICAL JOINERcHORIZONTAL:1cINSERT AT TOP STARTeBOTTOM:1",
    "eTOP ENDeBOTTOM:1cOVERLAY MIDDLEcBEGIN SEGMENTcEND:1"]),
  (82944, [
    "aANATOLIAN HIEROGLYPH A001+++++++++cA010AcA011+++++++++++++++cA026AcA027++++++++++++cA039A",
    "cA040+cA041AcA042+++cA045AcA046cA046AcA046BcA047+++++++++++++++++++cA066AcA066BcA066CcA067+",
    "+++++++++++++++++++++++++++++cA097AcA098cA098AcA099+cA100AcA101cA101AcA102cA102AcA103+",
    "cA104AcA104BcA104CcA105cA105AcA105BcA106+cA107AcA107BcA107CcA108++cA110AcA110BcA111++++",
    "cA115AcA116+++++++++cA125AcA126+++++++++cA135AcA136++++++++++++++++++++++++++++++++++++++++",
    "++++++++++++++++++++++++++cA202AcA202BcA203++++cA207AcA208+cA209AcA210+++++cA215AcA216",
    "cA216AcA217++++++++++cA227AcA228+++++++++++++++++++++++++++++++++++++++cA267AcA268+++++++++",
    "++++++++++++cA289AcA290++++cA294AcA295++++cA299AcA300+++++++++cA309AcA310++++++++++++++++++",
    "+cA329AcA330+cA332AcA332BcA332CcA333+++cA336AcA336BcA336CcA337++++++++++++++++++++++cA359A",
    "cA360++++cA364AcA365+++cA368AcA369++cA371AcA372+++++++++cA381AcA382cA383 RA OR RIcA383A",
    "cA384++cA386AcA387+++++cA393 EIGHTcA394+++++++++++++++cA410 BEGIN LOGOGRAM MARKcA410A END:2",
    "cA411+++++++++++++++++++++++++++++++++++++++cA450AcA451++++++cA457AcA458+++++++++++++++++++",
    "++++++++++++++++++++cA501+++++++++++++++++++++++++++++"]),
  (92160, [
    "aBAMUM LETTER PHASE-A NGKUE MFONdGBIEE FONdPON MFON PIPAEMGBIEEfPIPAEMBAdNAA MFON",
    "dSHUENSHUETdTITA MFONdNZA:1dSHINDA PA NJIdPON PA NJI PIPAEMGBIEEgPIPAEMBAdMAEMBGBIEE",
    "dTU MAEMBAdNGANGUdMAEMVEUXdMANSUAEdMVEUAENGAMdSEUNYAMdNTOQPENdKEUKEUTNDAdNKINDIdSUU",
    "dNGKUENZEUMdLAPAQdLET KUTdNTAP MFAAdMAEKEUPdPASHAEdGHEUAERAEdPAMSHAEdMON NGGEUAETdNZUN MEUT",
    "dU YUQ NAEdGHEUAEGHEUAEdNTAP NTAAdSISAdMGBASAdMEUNJOMNDEUQdMOOMPUQdKAFAdPA LEERAEWAdNDA:1",
    "dPETdMAEMKPENdNIKAdPUPdTUAEPdLUAEPdSONJAMdTEUTEUWENdMAENYIdKETdNDAANGGEUAETdKUOQdMOOMEUT",
    "dSHUMdLOMMAEdFIRIdROMdKPOQdSOQdMAP PIEETdSHIRAEdNTAPdSHOQ NSHUT YUMdNYIT MONGKEUAEQdPAARAE",
    "dNKAARAEdUNKNOWNdNGGENdMAESIdNJAMdMBANYIdNYETdTEUAENdSOTdPAAMdNSHIEEdMAEMdNYIdKAQdNSHAdVEE",
    "dLUdNENdNAQdMBAQcPHASE-B NSHUETdTU MAEMGBIEEdSIEEdSET TUdLOM NTEUMdMBA MAELEEdKIEEMdYEURAE",
    "dMBAARAEdKAMdPEESHIdYAFU LEERAEWAdLAM NSHUT NYAMdNTIEE SHEUOQdNDU NJAAdGHEUGHEUAEMdPIT",
    "dTU NSIEEdSHET NJAQdSHEUAEQTUdMFON TEUAEQdMBIT MBAAKETdNYI NTEUMdKEUPUQdGHEUGHENdKEUYEUX",
    "dLAANAEdPARUMdVEUMdNGKINDI MVOPdNGGEU MBUdWUAETdSAKEUAEdTAAMdMEUQdNGGUOQeLARGEdMFIYAQdSUE",
    "dMBEURIdMONTIEENdNYAEMAEdPUNGAAMdMEUT NGGEETdFEUXdMBUOQdFEEdKEUAEMdMA NJEUAENAeNJUQAdLET",
    "dNGGAAMdNSENdMAdKIQdNGOMcPHASE-C NGKUE MAEMBAdNZAdYUMdWANGKUOQdNGGENdNDEUAEREEdNGKAQdGHARAE",
    "dMBEEKEETdGBAYIdNYIR MKPARAQ MEUNdNTU MBITdMBEUMdPIRIEENdNDOMBUdMBAA CABBAGE-TREE",
    "dKEUSHEUAEPdGHAPdKEUKAQdYU MUOMAEdNZEUMdMBUEdNSEUAENdMBITdYEUQdKPARAQdKAAdSEUXdNDIDA",
    "dTAASHAEdNJUEQdTITA YUEdSUAETdNGGUAEN NYAMdVEUXdNANSANAQdMA KEUAERIdNTAAdNGGUONdLAP",
    "dMBIRIEENdMGBASAQdNTEUNGBAdTEUTEUXdNGGUMdFUEdNDEUTdNSAdNSHAQdBUNGdVEUAEPENdMBERAEdRUdNJAEM",
    "dLAMdTITUAEPdNSUOT NGOMdNJEEEEdKETdNGGUdMAESIdMBUAEMdLUdKUTdNJAMdNGOMdWUPdNGGUEETdNSOMdNTEN",
    "dKUOP NKAARAEdNSUNdNDAMdMA NSIEEdYAAdNDAPdSHUEQdSETFONdMBIdMAEMBAdMBANYIdKEUSEUXdMBEUXdKEUM",
    "dMBAA PICKETdYUWOQdNJEUXdMIEEdMUAEdSHIQdKEN LAWeFATIGUEdNGAQdNAQdLIQdPINdPENdTET",
    "cPHASE-D MBUOdWAPdNJIdMFONdNJIEEdLIEEdNJEUTdNSHEEdNGGAAMAEdNYAMdWUAENdNGKUNdSHEEdNGKAP",
    "dKEUAETMEUNdTEUTdSHEUAEdNJAPdSUEdKETdYAEMMAEdKUOMdSAPdMFEUTdNDEUXdMALEERIdMEUTdSEUAEQdYEN",
    "dNJEUAEMdKEUOT MBUAEdNGKEURIdTUdGHAAdNGKYEEdFEUFEUAETdNDEEdMGBOFUMdLEUAEPdNDONdMONIdMGBEUN",
    "dPUUTdMGBIEEdMFOdLUMdNSIEEPdMBAAdKWAETdNYETdTEUAENdSOTdYUWOQdKEUMdRAEMdTEEEEdNGKEUAEQ",
    "dMFEUAEdNSIEETdKEUPdPIPdPEUTAEdNYUEdLETdNGGAAMdMFIEEdNGGWAENdYUOMdPAPdYUOPdNDAMdNTEUMdSUAE",
    "dKUNdNGGEUXdNGKIEEdTUOTdMEUNdKUQdNSUMdTEUNdMAENJETdNGGAPdLEUMdNGGUOMdNSHUTdNJUEQdGHEUAEdKU",
    "dREN OLDdTAEdTOQdNYIdRIIdLEEEEdMEEEEdMdSUUdMUdSHIIdSHEUXdKYEEdNUdSHUdNTEEdPEEdNIdSHOQdPUQ",
    "dMVOPdLOQdREN MUCHdTIdNTUUdMBAA SEVENdSAQdFAAcPHASE-E NDAPdTOONdMBEUMdLAPdVOMdLOONdPAAdSOM",
    "dRAQdNSHUOPdNDUNdPUAEdTAMdNGKAdKPEUXdWUOdSEEdNGGEUAETdPAAMdTOOdKUOPdLOMdNSHIEEdNGOPdMAEM",
    "dNGKEUXdNGOQdNSHUEdRIMGBAdNJEUXdPEEMdSAAdNGGURAEdMGBAdGHEUXdNGKEUAEMdNJAEMLIdMAPdLOOT",
    "dNGGEEEEdNDIQdTAEN NTEUMdSETdPUMdNDAA SOFTNESSdNGGUAESHAE NYAMdYIEEdGHEUNdTUAEdYEUAEdPO",
    "dTUMAEdKEUAEdSUAENdTEUAEQdVEUAEdWEUXdLAAMdPUdTAAQdGHAAMAEdNGEUREUTdSHEUAEQdMGBENdMBEEdNZAQ",
    "dNKOMdGBETdTUMdKUETdYAPdNYI CLEAVERdYITdMFEUQdNDIAQdPIEEQdYUEQdLEUAEMdFUEdGBEUXdNGKUPdKET",
    "dMAEdNGKAAMIdGHETdFAdNTUMdPEUTdYEUMdNGGEUAEdNYI BETWEENdNZUQdPOONdMIEEdFUETdNAEdMUAEdGHEUAE",
    "dFU IdMVIdPUAQdNGKUMdKUTdPIETdNTAPdYEUAETdNGGUPdPA PEOPLEdFU CALLdFOMdNJEEdAdTOQdOdIdLAQ",
    "dPA PLURALdTAAdTAQdNDAA MY HOUSEdSHIQdYEUXdNGUAEdYUAENdYOQ SWIMMINGeCOVERdYUQdYUNdKEUXdPEUX",
    "dNJEE EPOCHdPUEdWUEdFEEdVEEdLUdMIdREUXdRAEdNGUAETdNGAdSHOdSHOQdFU REMEDYdNAdPIdLOQdKOdMEN",
    "dMAdMAQdTEUdKIdMONdTENdFAQdGHOMcPHASE-F KAdUdKUdEEdREEdTAEdNYIdLAdRIIdRIEEdMEEEEdTAAdNDAA",
    "dNJAEMdMdSUUdSHIIdSIdSEUXdKYEEdKETdNUAEdNUdNJUAEdYOQdSHUdYAdNSHAdPEUXdNTEEdWUEdPEEdRUdNI",
    "dREUXdKENdNGKWAENdNGGAdSHOdPUAEdFOMdWAdLIdLOQdKOdMBENdRENdMAdMOdMBAAdTETdKPAdSAMBAdVUEQ....",
    "...aMRO LETTER TAcNGIcYOcMIMcBAcDAcAcPHIcKHAIcHAOcDAIcCHUcKEAAEcOLcMAEMcNINcPAcOOcOcROcSHI",
    "cTHEAcEAcWAcEcKOcLANcLAcHAIcRIcTEK.bDIGIT ZEROcONEcTWOcTHREEcFOURcFIVEcSIXcSEVENcEIGHTcNINE",
    "....bDANDAbDOUBLE:1aTANGSA LETTER OZcOCcOQcOXcAZcACcAQcAXcVZcVCcVQcVXcEZcECcEQcEXcIZcICcIQ",
    "cIXcUZcUCcUQcUXcAWZcAWCcAWQcAWXcUIZcUICcUIQcUIXcFINAL NGcLONG UEXcSHORT UEZdAWXcUECcUEZcUEQ",
    "cUEXcUIUZcUIUCcUIUQcUIUXcMZcMCcMQcMXcKAcKHAcGAcNGAcSAcYAcWAcPAcNYAcPHAcBAcMAcNAcHAcLAcHTA",
    "cTAcDAcRAcNHAcSHAcCAcTSAcGHAcHTTAcTHAcXAcFAcDHAcCHAcZA.bDIGIT ZEROcONEcTWOcTHREEcFOURcFIVE",
    "cSIXcSEVENcEIGHTcNINE......aBASSA VAH LETTER ENNIdKAdSEdFAdMBEdYIEdGAHdDHIIdKPAHdJOdHWAHdWA",
    "dZOdGBUdDOdCEdUWUdTOdBAdVUdYEINdPAdWADDAdAdOdOOdUdEEdEdI..cCOMBINING HIGH TONEdLOW:1dMID:1",
    "dLOW-MID:1dHIGH-LOW:1cFULL STOP..........aPAHAWH HMONG VOWEL KEEBdKEEVdKIBdKIVdKAUBdKAUV",
    "dKUBdKUVdKEBdKEVdKAIBdKAIVdKOOBdKOOVdKAWBdKAWVdKUABdKUAVdKOBdKOVdKIABdKIAVdKABdKAVdKWBdKWV",
    "dKAABdKAAVcCONSONANT VAUdNTSAUdLAUdHAUdNLAUdRAUdNKAUdQHAUdYAUdHLAUdMAUdCHAUdNCHAUdHNAU",
    "dPLHAUdNTHAUdNAUdAUdXAUdCAUcMARK CIM TUBeSOeKESeKHAVeSUAMeHOMeTAUMcSIGN VOS THOMeTSHAB CEEB",
    "dCIM CHEEMdVOS THIABeFEEMdXYEEM NTXIVeRHOeTOVeFAIBdVOS SEEVdMEEJ SUABdVOS NRUAdIB YAMdXAUS",
    "dCIM TSOV ROG..........cDIGIT ZEROdONEdTWOdTHREEdFOURdFIVEdSIXdSEVENdEIGHTdNINE.",
    "cNUMBER TENSdHUNDREDSdTEN THOUSANDSdMILLIONSdHUNDRED:1dTEN BILLIONSdTRILLIONS.cSIGN VOS LUB",
    "dXYOOdHLIdTHIRD-STAGE:1dZWJ THAJdHNUBdNQIGdXIABdNTUJdAVdTXHEEJ CEEVdMEEJ TSEEBdTAUdLOSdMUS",
    "dCIM HAIS LUS NTOG NTOGeCUAM TSHOOJeTXWVfCHWVePUB DAWBeNRES TOS.....cCLAN SIGN TSHEEJeYEEG",
    "eLISeLAUJeXYOOJeKOOeHAWJeMUASeTHOJeTSABePHABeKHABeHAMeVAJeFAJeYAJeTSWBeKWMeVWJ"]),
  (93760, [
    "aMEDEFAIDRIN CAPITAL LETTER MdSdVdWdATIUdZdKPdPdTdGdFdIdKdAdJdEdBdCdUdYUdLdQdHPdNYdXdDdOEdN",
    "dRdOdAIdYbSMALL LETTER MdSdVdWdATIUdZdKPdPdTdGdFdIdKdAdJdEdBdCdUdYUdLdQdHPdNYdXdDdOEdNdRdO",
    "dAIdYbDIGIT ZEROcONEcTWOcTHREEcFOURcFIVEcSIXcSEVENcEIGHTcNINEbNUMBER TENcELEVENcTWELVE",
    "cTHIRTEENcFOURTEENcFIFTEENcSIXTEENcSEVENTEENcEIGHTEENcNINETEENbDIGIT ONE ALTERNATE FORM",
    "cTWO:2cTHREE:2bCOMMAbFULL STOPbSYMBOL AIVAbEXCLAMATION OH"]),
  (93952, [
    "aMIAO LETTER PAcBAcYI PAcPLAcMAcMHAcARCHAIC MAcFAcVAcVFAcTAcDAcYI TTAdTAcTTAcDDAcNAcNHA",
    "cYI NNAcARCHAIC NAcNNAcNNHAcLAcLYAcLHAcLHYAcTLHAcDLHAcTLHYAcDLHYAcKAcGAcYI KAcQAcQGAcNGA",
    "cNGHAcARCHAIC NGAcHAcXAcGHAcGHHAcTSSAcDZZAcNYAcNYHAcTSHAcDZHAcYI TSHAdDZHAcREFORMED TSHA",
    "cSHAcSSAcZHAcZSHAcTSAcDZAcYI TSAcSAcZAcZSAcZZAcZZSAcARCHAIC ZZAcZZYAcZZSYAcWAcAHcHHAcBRI",
    "cSYIcDZYIcTEcTSEcRTE....bSIGN CONSONANT MODIFIER BARbLETTER NASALIZATIONbSIGN ASPIRATION",
    "cREFORMED VOICINGdASPIRATIONbVOWEL SIGN AdAAdAHHdANdANGdOdOOdWOdWdEdENdENGdOEYdIdIAdIAN",
    "dIANGdIOdIEdIIdIUdINGdUdUAdUANdUANGdUUdUEIdUNGdYdYIdAEdAEEdERRdROUNDED:1dERdROUNDED:1dAIdEI",
    "dAUdOUdNdNGdUOGdYUIdOGdOERdVWdIGdEAdIONGdUI.......bTONE RIGHTcTOP:1cABOVEcBELOW",
    "bLETTER TONE-2++++++cREFORMED TONE-1+dTONE-4++dTONE-8"]),
  (94176, [
    "aTANGUT ITERATION MARKaNUSHU:2aOLD CHINESE HOOK:1cITERATION:1aKHITAN SMALL SCRIPT FILLER...",
    "........aVIETNAMESE ALTERNATE READING MARK CAeNHAY"]),
  (100352, [
    "aTANGUT COMPONENT-001++++++++++++++++++++++++++++++++++++++++++++++++++++++++++++++++++++++",
    "+++++++++++++++++++++++++++++++++++++++++++++++++++++++++++++++++++++++++++++++++++++++++++",
    "+++++++++++++++++++++++++++++++++++++++++++++++++++++++++++++++++++++++++++++++++++++++++++",
    "+++++++++++++++++++++++++++++++++++++++++++++++++++++++++++++++++++++++++++++++++++++++++++",
    "+++++++++++++++++++++++++++++++++++++++++++++++++++++++++++++++++++++++++++++++++++++++++++",
    "+++++++++++++++++++++++++++++++++++++++++++++++++++++++++++++++++++++++++++++++++++++++++++",
    "+++++++++++++++++++++++++++++++++++++++++++++++++++++++++++++++++++++++++++++++++++++++++++",
    "+++++++++++++++++++++++++++++++++++++++++++++++++++++++++++++++++++++++++++++++++++++++++++",
    "++++++++++++++++++++++++++++++++++++++++++++++++++++++++++++"]),
  (110576, [
    "aKATAKANA LETTER MINNAN TONE-2+++.dTONE-7+dNASALIZED TONE-1++++.eTONE-7+.cARCHAIC E",
    "aHIRAGANA LETTER ARCHAIC YEaHENTAIGANA LETTER A-1++cA-WOcI-1+++cU-1++++cE-2++++cO-1++cKA-1+",
    "+++++++++cKA-KEcKI-1+++++++cKU-1++++++cKE-1+++++cKO-1++cKO-KIcSA-1+++++++cSI-1+++++cSU-1+++",
    "++++cSE-1++++cSO-1++++++cTA-1+++cTI-1++++++cTU-1+++cTU-TOcTE-1++++++++cTO-1+++++cTO-RAcNA-1",
    "++++++++cNI-1++++++cNI-TEcNU-1++cNE-1+++++cNE-KOcNO-1++++cHA-1++++++++++cHI-1++++++cHU-1++",
    "cHE-1++++++cHO-1+++++++cMA-1++++++cMI-1++++++cMU-1+++cME-1+cME-MAcMO-1+++++cYA-1++++cYA-YO",
    "cYU-1+++cYO-1+++++cRA-1+++cRI-1++++++cRU-1+++++cRE-1+++cRO-1+++++cWA-1++++cWI-1++++cWE-1+++",
    "cWO-1++++++cN-MU-MO-1+aHIRAGANA LETTER ARCHAIC WUaKATAKANA LETTER ARCHAIC YIdYEdWU"]),
  (110928, [
    "aHIRAGANA LETTER SMALL WIdWEdWO.................aKATAKANA LETTER SMALL WIdWEdWOdN"])]

end HttpGateway.Text.CharName
