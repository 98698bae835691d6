/-!
# Names of characters from T to Z

The names and other names of characters that begin with these letters, written
as the module `Chip8.Text.CharacterName` says.
-/

namespace Chip8.Text.CharacterName

def namesTToZ : List String := [
    "aT-REXdSHIRTgABaLE TENNIS PADDLE AND BALLzbCOcG AMPERSANDiPOSTROPHE",
    "jSTERISKiCIRCUMFLEX ACCENTqOLONdMMAbERCIAL ATnDIGIT EIGHTfFIVEdOUReNINE",
    "eONEdSEVENeIXdTHREEeWOdZEROjOLLAR SIGNlEQUALS SIGNkXCLAMATION MARK",
    "qFULL STOPjGRAVE ACCENTkEATER-THAN SIGNrHYPHEN-MINUS",
    "mLATIN CAPITAL LETTER AbBbCbDbEbFbGbHbIbJbKbLbMbNbObPbQbRbSbTbUbVbWbXbY",
    "bZqSMALL LETTER AbBbCbDbEbFbGbHbIbJbKbLbMbNbObPbQbRbSbTbUbVbWbXbYbZ",
    "tEFT CURLY BRACKETnPARENTHESISlSQUARE BRACKETrSS-THAN SIGNnOW LINE",
    "iNUMBER SIGNlPERCENT SIGNlLUS SIGNjQUESTION MARKlOTATION MARK",
    "oREVERSE SOLIDUSoIGHT CURLY BRACKETnPARENTHESISlSQUARE BRACKETuSEMICOLON",
    "iOLIDUSgPACEfTILDEfVERTICAL LINEoALOG LETTER AaRCHAIC RAkBAcDAcGAcHAcI",
    "bKAcLAcMAcNAbGAdPAcRAcSAcTAcUbWAcYAjSIGN PAMUDPODiVIRAMAlVOWEL SIGN IbU",
    "rBANWA LETTER AbBAcDAcGAcIbKAcLAcMAcNAbGAdPAcSAcTAcUbWAcYAjVOWEL SIGN I",
    "bUtI LE LETTER AaIbUEdEaEbHcFAcHAcIbKAbHAdLAcMAcNAbGAdOaOcPAbHAdQAcSAcTA",
    "bHAcONE-2b3b4b5b6fSAbHAeUaEcVAcXAcYAmTHAM COMBINING CRYPTOGRAMMIC DOTz",
    "aNSONANT SIGN BAcFINAL NGAjHIGH RATHA OR LOW PAuLA TANG LAIkOW PAgMA",
    "bEDIAL LAcRAjSArHORA DIGIT EIGHTfFIVEdOUReNINEeONEdSEVENeIXdTHREEeWO",
    "dZEROpLETTER AbBAcDAcEEcGREAT SAiHIGH CAbHAdFAcHAcKAbHAcXAdPAbHAdRATHA",
    "fSAbHAcSAdTAbHAdYAhIaIcLAaEcLAcOW CAbHAdFAcHAcKAbHAcXAdPAbHAdRATHAfSAcTA",
    "bHAdYAfUEdMAcNAbGAcYAdOOcRAaNAcTAdUEdUaUcWAjSIGN CAANGfDOKMAIgHANGdOY",
    "dKAANaKUUgEOWdHUEN TONE-3b4b5h-LUE KARANpMAI KANGa LAIiSAMdYAMOKjRA HAAM",
    "gEVERSED ROTATED RANAvSAKOTdTKAANaKUUiWANfTONE-1b2gWIANGaWAAK",
    "oTHAM DIGIT EIGHTfFIVEdOUReNINEeONEdSEVENeIXdTHREEeWOdZEROpVOWEL SIGN A",
    "aAbEbIcEbIaIcMAI SAThOaA ABOVEfBELOWhObYcTALL AAgHAM AIhUaEbUaE",
    "tVIET LETTER HIGH BOcCHOcOcDOcFOcGOcHOcKHHOcOcOcLOcMOcNGOcObYOdObPHOcO",
    "cROcSOcTHOcOcVOcYOhLOW BOcCHOcOcDOcFOcGOcHOcKHHOcOcOcLOcMOcNGOcObYOdO",
    "bPHOcOcROcSOcTHOcOcVOcYOnMAI KANGdHITiSYMBOL HO HOIgKOI KOIfNdNUENGfSAM",
    "kTONE MAI EKcNUENGfSONGeTHOmVOWEL AAbMbNbUEcYcEbIaAcObUaAbEaAqKEOUT BOX",
    "iRI ABBREVIATION SIGNrDIGIT EIGHTfFIVEdOUReNINEeONEdSEVENeIXdTHREEeWO",
    "dZEROkLETTER AaAbIbRCHAIC KHAkUcBAbHAdCAbHAdDAbDAbHAdHAdEbGAbHAdHAcIaI",
    "cJAbHAdKAbHAdLAcMAcNAbGAcNAcYAdObPAbHAdRAbRAdSAbHAdTAbHAcTAbHAeUaUcVAcYA",
    "jSIGN ANUSVARAiNUKTAfVIRAMAeSARGAmVOWEL SIGN AAbIbUcEbIaIcObUaU",
    "rLLY MARK FIVEeONEmMALEdIL AND ODD SIGNlS ABOVE SIGNmU LENGTH MARK",
    "oCREDIT SIGNkURRENT SIGNmDAY SIGNhEBIT SIGNjIGIT EIGHTfFIVEdOUReNINEeONE",
    "dSEVENeIXdTHREEeWOdZEROjRY CULTIVATION SIGN",
    "uFRACTION DOWNSCALING FACTOR KIIZHyONE EIGHTHbIETHjFIFTHeORTIETHiHALF-1",
    "b2gONE-HUNDRED-AND-SIXTIETHyQUARTERhSIXTEENTH-1b2hY-FOURTHmTENTH",
    "eHIRTY-SECONDlREE-HUNDRED-AND-TWENTIETHzbWENTIETHnTHREE EIGHTIETHS",
    "kQUARTERSiSIXTEENTHSgY-FOURTHSnTWENTIETHSzaIN POSSESSION SIGNsLAND SIGN",
    "iETTER AaAbIbUcCAcEaEcHAcIaIcJAcKAcLAbLAbLAeMAcNAbGAcNAbNAdYAdOaOcPAcRA",
    "bRAdSAbHAcSAdTAbTAdUaUcVAcYAjMONTH SIGNkNUMBER ONE HUNDREDhTHOUSANDmSIGN",
    "eTENkOMcPUNCTUATION END OF TEXTxRUPEE SIGNkSALT PAN SIGNmIGN AAZHAAKKU",
    "iNUSVARAiCEVITUgKAACUeURUNIeZHIfMUKKURUNIhTHALIYAhUVUZHAKKUlNELdPAARAM",
    "eNAMdTHAKKUhONdUZHAKKUhVAKAIYARAAiRAAKANhELIdIRAMAeSARGAlPENT SIGN",
    "jTARTING FROM SIGNsTOTAL SIGNjRADITIONAL CREDIT SIGNlNUMBER SIGN",
    "xVOWEL SIGN AAbIbUcEaEcIaIcOaOcUaUnWET CULTIVATION SIGNuYEAR SIGN",
    "nNABATA TREEkGERINEfSA DIGIT EIGHTfFIVEdOUReNINEeONEdSEVENeIXdTHREEeWO",
    "dZEROkLETTER ACbQbWCbQbXbZcXbZcBAcCAbHAdDAbHAdECbQbXbZcFAbINAL NGiGAbHA",
    "dHAbTAbTAeICbQbXbZcKAbHAdLAbONG UEXiMAbCbQbXbZcNAbGAcHAcYAdOCbQbXbZcPA",
    "bHAdRAcSAbHAbORT AWXdUEZjTAbHAcSAdUCbECbQbXbZcICbQbUCbQbXbZcXbZcQbXbZcVC",
    "bQbXbZcWAcXAcYAcZAmUT COMPONENT-001b2b3b4b5b6b7b8b9c10b1b2b3b4b5b6b7b8b9",
    "c20b1b2b3b4b5b6b7b8b9c30b1b2b3b4b5b6b7b8b9c40b1b2b3b4b5b6b7b8b9c50b1b2b3",
    "b4b5b6b7b8b9c60b1b2b3b4b5b6b7b8b9c70b1b2b3b4b5b6b7b8b9c80b1b2b3b4b5b6b7",
    "b8b9c90b1b2b3b4b5b6b7b8b9d100b1b2b3b4b5b6b7b8b9c10b1b2b3b4b5b6b7b8b9c20",
    "b1b2b3b4b5b6b7b8b9c30b1b2b3b4b5b6b7b8b9c40b1b2b3b4b5b6b7b8b9c50b1b2b3b4",
    "b5b6b7b8b9c60b1b2b3b4b5b6b7b8b9c70b1b2b3b4b5b6b7b8b9c80b1b2b3b4b5b6b7b8",
    "b9c90b1b2b3b4b5b6b7b8b9d200b1b2b3b4b5b6b7b8b9c10b1b2b3b4b5b6b7b8b9c20b1",
    "b2b3b4b5b6b7b8b9c30b1b2b3b4b5b6b7b8b9c40b1b2b3b4b5b6b7b8b9c50b1b2b3b4b5",
    "b6b7b8b9c60b1b2b3b4b5b6b7b8b9c70b1b2b3b4b5b6b7b8b9c80b1b2b3b4b5b6b7b8b9",
    "c90b1b2b3b4b5b6b7b8b9d300b1b2b3b4b5b6b7b8b9c10b1b2b3b4b5b6b7b8b9c20b1b2",
    "b3b4b5b6b7b8b9c30b1b2b3b4b5b6b7b8b9c40b1b2b3b4b5b6b7b8b9c50b1b2b3b4b5b6",
    "b7b8b9c60b1b2b3b4b5b6b7b8b9c70b1b2b3b4b5b6b7b8b9c80b1b2b3b4b5b6b7b8b9c90",
    "b1b2b3b4b5b6b7b8b9d400b1b2b3b4b5b6b7b8b9c10b1b2b3b4b5b6b7b8b9c20b1b2b3b4",
    "b5b6b7b8b9c30b1b2b3b4b5b6b7b8b9c40b1b2b3b4b5b6b7b8b9c50b1b2b3b4b5b6b7b8",
    "b9c60b1b2b3b4b5b6b7b8b9c70b1b2b3b4b5b6b7b8b9c80b1b2b3b4b5b6b7b8b9c90b1b2",
    "b3b4b5b6b7b8b9d500b1b2b3b4b5b6b7b8b9c10b1b2b3b4b5b6b7b8b9c20b1b2b3b4b5b6",
    "b7b8b9c30b1b2b3b4b5b6b7b8b9c40b1b2b3b4b5b6b7b8b9c50b1b2b3b4b5b6b7b8b9c60",
    "b1b2b3b4b5b6b7b8b9c70b1b2b3b4b5b6b7b8b9c80b1b2b3b4b5b6b7b8b9c90b1b2b3b4",
    "b5b6b7b8b9d600b1b2b3b4b5b6b7b8b9c10b1b2b3b4b5b6b7b8b9c20b1b2b3b4b5b6b7b8",
    "b9c30b1b2b3b4b5b6b7b8b9c40b1b2b3b4b5b6b7b8b9c50b1b2b3b4b5b6b7b8b9c60b1b2",
    "b3b4b5b6b7b8b9c70b1b2b3b4b5b6b7b8b9c80b1b2b3b4b5b6b7b8b9c90b1b2b3b4b5b6",
    "b7b8b9d700b1b2b3b4b5b6b7b8b9c10b1b2b3b4b5b6b7b8b9c20b1b2b3b4b5b6b7b8b9",
    "c30b1b2b3b4b5b6b7b8b9c40b1b2b3b4b5b6b7b8b9c50b1b2b3b4b5b6b7b8b9c60b1b2b3",
    "b4b5b6b7b8nITERATION MARKtPE CARTRIDGEjDRIVEiURUSeXI",
    "dEACUP WITHOUT HANDLEsPOTdR-OFF CALENDARnDROP-BARBED RIGHTWARDS ARROW",
    "xSPOKED ASTERISKwDDY BEARiLEPHONE LOCATION SIGNnON TOP OF MODEMpRECEIVER",
    "a WITH PAGEpORDERiSIGNkSCOPEfVISIONhUGU AI LENGTH MARKoDIGIT EIGHTfFIVE",
    "dOUReNINEeONEdSEVENeIXdTHREEeWOdZERO",
    "kFRACTION DIGIT ONE FOR EVEN POWERS OF FOURtODD POWERS OF FOURz",
    "bTHREE FOR EVEN POWERS OF FOURtODD POWERS OF FOURz",
    "cWO FOR EVEN POWERS OF FOURtODD POWERS OF FOURz",
    "bZERO FOR ODD POWERS OF FOURzrLENGTH MARKjTTER AaAbIbUcBAbHAdCAbHAdDAbDA",
    "bHAdHAcZAdEaEcGAbHAdHAcIaIcJAbHAdKAbHAdLAbLAbLAeMAcNAaKAARA POLLUmGAcNA",
    "cYAdOaOcPAbHAdRAbRAbRAeSAbHAcSAdTAbHAcSAcTAbHAeUaUcVAbOCALIC LaLcRaRkYA",
    "jSIGN ANUSVARAhVAGRAHAiCANDRABINDUkOMBINING ANUSVARA ABOVE",
    "oCANDRABINDU ABOVEzcNUKTAfSIDDHAMhTUUMUfVIRAMAeSARGAmVOWEL SIGN AAbIbUcE",
    "aEcIaIcOaOcUaUcVOCALIC LaLcRaRzbNGE SIGNhNIS RACQUET AND BALLuTcST TUBE",
    "hTRAGRAM FOR ACCUMULATIONlDVANCEgGGRAVATIONkSCENTgBARRIERgOLD RESOLUTION",
    "oRANCHING OUTnCENTREfHANGEfLOSED MOUTHhNESSfUREgOMPLETIONfIANCEiNSTANCY",
    "gTACTdENTIONgRARIETYlDARKENINGiECISIVENESSkFECTIVENESS OR DISTORTIONz",
    "aPARTUREiIFFICULTIESkMINISHMENTjMINGfVERGENCEjOUBTeUTIESgEASE",
    "dMBELLISHMENTmNCOUNTERSiDEAVOURhLARGEMENTkTERNITYhXHAUSTIONkFAILURE",
    "gLIGHTfOLLOWINGhSTERINGiULL CIRCLEhNESSiGATHERINGa INlOING TO MEET",
    "mREATNESSiUARDEDNESSlHARDNESShOLDING BACKmINCREASEgNERfJOYdKEEPING SMALL",
    "mINSHIPhLABOURINGhW OR MODELlEGIONgMASSINGgEASUREgIREDfON THE VERGE",
    "lPPOSITIONkPACKINGfTTERNgENETRATIONkURITYgREACHdLEASEfSIDENCEfSTANCE",
    "hPONSEhITUALgSEVERANCEiINKINGgTOPPAGEfVEdRENGTHiUNITY",
    "fVASTNESS OR WASTINGtWAITINGfTCHfYOUTHFULNESSzaHAANA AABAAFILIiBAFILI",
    "hEBEFILIgEBEEFILIiYBEYFILIjIBIFILIhLETTER AINUdLIFUfBAAdCHAVIYANIjDAADHU",
    "eVIYANIhHAALUgFAAFUfGAAFUeHAINUfNAVIYANIjHAAcHAAeJAVIYANIiKAAFUeHAA",
    "eLAAMUeHAVIYANIjMEEMUfNAAcOONUfPAVIYANIiQAAFUfRAAdSAADHUfEENUeHAVIYANI",
    "hEENUgTAVIYANIhHAAaLUfObTAAeVAAVUfWAAVUfYAAdZAAbVIYANIhOjOABOAFILI",
    "iBOFILIgOBOOFILIjSUKUNfUBUFILIlI CHARACTER ANGKHANKHUkBO BAIMAIjCHO CHAN",
    "aGdINGdOEiDO CHADAfDEKgFO FAaNeNGMANhHO HIPdNOKHUKjKHO KHAIcONcUATdWAI",
    "fRAKHANGiMUTfO KAIgLAKKHANGYAOkO CHULAfLINGgUcMAI CHATTAWAiEKcHAN-AKAT",
    "iTHOcRIeTAIKHUgYAMOKhO MAfNGO NGUgIKHAHIThO NENcUfO ANGfPAIYANNOIiHINTHU",
    "fO PHANcUNGfSAMPHAOkO PLAgRO RUAfUcSARA AaAbEbI MAIMALAIeUANjMcEbIaIcObU",
    "aEaEcUgO RUSIeSALAdObUAgTHANTHAKHATjO NANGMONTHOkPHUTHAOhTHAHANdNcONG",
    "dUNGiO PATAKfTAOgWO WAENhYAMAKKANhO YAKcINGqURRENCY SYMBOL BAHT",
    "uDIGIT EIGHTfFIVEdOUReNINEeONEdSEVENeIXdTHREEeWOdZEROnERE DOES NOT EXIST",
    "oEXISTShFOREfMODYNAMIChMETERjIN GREEK CROSSlSALTIREgPACEgKING FACE",
    "kRD PLACE MEDALpONG SANDALjUGHT BALLOONnREE BUTTON MOUSE",
    "mCONSECUTIVE EQUALS SIGNSyDIMENSIONAL ANGLEqOT PUNCTUATION",
    "pLEFTWARDS ARROWSpINES CONVERGING LEFTeRIGHTwNETWORKED COMPUTERS",
    "tPOINTED BLACK STARsRAYS ABOVEfBELOWfLEFTeRIGHTjIGHTWARDS ARROWS",
    "rSPEECH BUBBLESp-D BOTTOM-LIGHTED RIGHTWARDS ARROWHEADz",
    "kLEFT-LIGHTED DOWNWARDS EQUILATERAL ARROWHEADz",
    "tRIGHT-LIGHTED UPWARDS EQUILATERAL ARROWHEADz",
    "sTOP-LIGHTED LEFTWARDS EQUILATERAL ARROWHEADzgRIGHTWARDS ARROWHEAD",
    "jEQUILATERAL ARROWHEADzvEM DASHhPER-EM SPACEqUMBS DOWN SIGNjUP SIGN",
    "lNDER CLOUD AND RAINpSTORMlIBETAN ASTROLOGICAL SIGN -KHYUD PA",
    "jSDONG TSHUGSlGRA GCAN -CHAR RTAGSzoCANTILLATION SIGN CANG TE-U",
    "jHEAVY BEATkLIGHT BEATkSBUB -CHALzdDIGIT EIGHTfFIVEdOUReHALF EIGHTfFIVE",
    "dOUReNINEeONEdSEVENeIXdTHREEeWOdZEROjNINEeONEdSEVENeIXdTHREEeWOdZERO",
    "kKU RU KHAa BZHI MIG CANwLETTER -AcAbBAbHAdCAbHAdDAbDAbHAdHAcZAbHA",
    "eFIXED-FORM RAnGAbHAdHAcJAcKAbHAcKAcSSAeLAcMAcNAbGAcNAcYAdPAbHAdRAbRAdSA",
    "bHAcSAdTAbHAcSAbHAdTAbHAeWAcYAcZAbHAjOGOTYPE SIGN CHAD RTAGSkLHAG RTAGS",
    "yMARK ANG KHANG GYAScONoBKA- SHOG GI MGO RGYANmYIG MGOqSDUS RTAGS",
    "jKA- SHOG GI MGO RGYANuUR YIG MGOnCARET -DZUD RTAGS BZHI MIG CAN",
    "mME LONG CANxYIG MGO PHUR SHAD MAzaHE MGO",
    "gLOSING BRDA RNYING YIG MGO SGAB MAzcYIG MGO SGAB MA",
    "xDELIMITER TSHEG BSTARvGTER TSHEGfYIG MGO -UM GTER TSHEG MAnRNAM BCAD MA",
    "qTRUNCATED AxUG RTAGS GYAScONoHALANTA",
    "hINITIAL BRDA RNYING YIG MGO MDUN MAzcYIG MGO MDUN MAvTERSYLLABIC TSHEG",
    "tLEADING MCHAN RTAGStMNYAM YIG GI MGO RGYANwNGAS BZUNG NYI ZLA",
    "hSGOR RTAGSuYIS SHADeTSHEGa SHADpPALUTAgRGYA GRAM SHAD",
    "nIN CHEN SPUNGS SHADuSBRUL SHADjHADeTRAILING MCHAN RTAGStSA -PHRU",
    "hHEG SHADkYIG MGO TSHEG SHAD MAzbSIGN GRU CAN RGYINGSlMED RGYINGS",
    "pINVERTED MCHU CANrLCE TSA CANjI RTAGSjMAR TSHESiCHU CANiNYI ZLA NAA DA",
    "oRDEL DKAR GCIGdNYISeSUMeRDEL NAGnNAG GCIGdNYISeSUMeRDEL DKAR",
    "rJES SU NGA ROnNAM BCADjSNA LDANiYANG RTAGSiR TSHESnUBJOINED LETTER -AcA",
    "bBAbHAdCAbHAdDAbDAbHAdHAcZAbHAeFIXED-FORM RAcWAcYAnGAbHAdHAcJAcKAbHAcSSA",
    "eLAcMAcNAbGAcNAcYAdPAbHAdRAcSAbHAcSAdTAbHAcSAbHAdTAbHAeWAcYAcZAbHA",
    "kSIGN INVERTED MCHU CANrLCE TSA CANlMCHU CANwYLLABLE OMjMBOL DRIL BU",
    "hNOR BUa BZHI -KHYILlGSUM -KHYILlNYIS -KHYILsPADMA GDANjHUR PAhRDO RJE",
    "a RGYA GRAMyVOWEL SIGN AAcEaEcIaIcOaOcREVERSED IaIlUaUcVOCALIC LaLcRaRz",
    "cCKETeE OVER INFINITYpFINAGH CONSONANT JOINERqLETTER AHAGGAR YAZH",
    "lYER YAGHjBERBER ACADEMY YAHbJsTAWELLEMET YAZnUAREG YAGHbNcHbKaHcNGcQbZH",
    "lYAaAbBaHcCHcDaDaHcHcFbGaHaHdHaHcJbKaHaHdLbMbNbPbQbRaRcSaHbScTaHbTcVbWbY",
    "bZaHbZdEaYcIbObUjMODIFIER LETTER LABIALIZATION MARKzjSEPARATOR MARKvGER",
    "a FACEhHT TRIFOLIATE SNOWFLAKEyLDEa OPERATORa ABOVE LEFTWARDS ARROW",
    "pRIGHTWARDS ARROWwWITH DOT ABOVEjRISING DOTSzaWITH DOT ABOVEfBELOW",
    "jRING ABOVEtMER CLOCKhS WITH LEFT HALF BLACKpRIGHT HALF BLACKzaNY",
    "a TWO DOTS OVER ONE DOT PUNCTUATIONzlRED FACEhHUTA ABBREVIATION SIGNqNJI",
    "eDIGIT EIGHTfFIVEdOUReNINEeONEdSEVENeIXdTHREEeWOdZEROkGVANGfLETTER AaAbI",
    "bUcBAbHAdCAbHAdDAbDAbHAdHAdEbGAbHAdHAcIaIcJAbHAdKAbHAdLAcMAcNAbGAcNAcYA",
    "dObPAbHAdRAcSAbHAcSAdTAbHAcTAbHAeUaUcVAbOCALIC LaLcRaRkYAjOM",
    "cSIGN ANUSVARAhVAGRAHAiCANDRABINDUlNUKTAfVIRAMAeSARGAmVOWEL SIGN AAbIbU",
    "cEbIaIcObSHORT EbOhUaUcVOCALIC LaLcRaRzbONIAN SIGN CAPITAL ETkETpOILET",
    "eKYO TOWERjMATOeNGUEeOLBOXeTHaBRUSHiP ARC ANTICLOCKWISE ARROWa WITH PLUS",
    "zeCLOCKWISE ARROW WITH MINUSzfCURLY BRACKETnHALF BLACK CIRCLEmINTEGRAL",
    "iLEFT PARENTHESISqRIGHT PARENTHESISrSECTION SIGNpTdLEFT CORNERfROP",
    "eHALF BRACKETrPARENTHESISlRIGHT CORNERfROPeHALF BRACKETsSQUARE BRACKET",
    "oTORTOISE SHELL BRACKETwWITH UPWARDS ARROW ABOVEz",
    "bRTOISE SHELL BRACKETED CJK UNIFIED IDEOGRAPH-4E09c8Ce52DDdB89e6253d557",
    "d72Ce70B9d6D7zbLATIN CAPITAL LETTER SzuTAL RUNOUTjO LETTER AaEcBA",
    "bREATHY AEcEaOcIaUkCHAdDAcEaOcGAcHAcIaUcJAcKAcLAcMAcNAbGAdObPAcRAcSAcTA",
    "cUbWAcYAjSIGN RISING TONEuRACKBALLfTOReDE MARK SIGNmINcMa CARfNSPLUTO",
    "fVERSAL INTERSECTIONwIANGLE WITH DOT ABOVEjROUNDED CORNERS",
    "pSERIFS AT BOTTOMqUNDERBARo-HEADED RIGHTWARDS ARROWzbULAR BULLET",
    "gFLAG ON POSTmRULERnCOLONfDENT EMBLEMlGRAM FOR EARTHfFIREeHEAVENgLAKE",
    "eMOUNTAINiTHUNDERhWATEReINDnPLE COLON OPERATORoDAGGER",
    "gHORIZONTAL BAR WITH DOUBLE VERTICAL STROKEwTRIPLE VERTICAL STROKEz",
    "rINTEGRALiNESTED GREATER-THANmLESS-THANqPLUSdRIME",
    "fSOLIDUS BINARY RELATIONxTILDEfVERTICAL BAR BINARY RELATIONpDELIMITER",
    "jRIGHT TURNSTILEpWITH HORIZONTAL STROKEzpOLLaEYBUShPHYcICAL DRINKfFISH",
    "lUEa LIGHT MOON ARTArMPETgUGRIK SIGNjLIPdMBLER GLASSlRKEYcISH LIRA SIGN",
    "oNED AMPERSANDiNGLEfBLACK PENTAGONiSHOGI PIECErCAPITAL FiOMMAfDAGGER",
    "fIGIT THREEeWOjGREEK SMALL LETTER IOTAxNORTH EAST POINTING LEAF",
    "sWEST POINTING LEAFwT SIGNiOK HAND SIGNmSANS-SERIF CAPITAL GbLbY",
    "tEMICOLONiMALL FgOUTH EAST POINTING LEAFsWEST POINTING LEAF",
    "yWHITE SHOGI PIECEvTLEfWELVE POINTED BLACK STARxISTED RIGHTWARDS ARROWS",
    "xO ASTERISKS ALIGNED VERTICALLYzdBUTTON MOUSEmCONSECUTIVE EQUALS SIGNS",
    "yDOT LEADERgPUNCTUATIONmS OVER ONE DOT PUNCTUATIONzeHEARTS",
    "gINTERSECTING LOGICAL ANDdORxJOINED SQUARESoLOGICAL AND OPERATOR",
    "mOR OPERATORtMEN HOLDING HANDSrSPEECH BUBBLESoWOMEN HOLDING HANDS",
    "u-EM DASHlUGARITIC LETTER AINcLPAeBETAeDELTAeHALeGAMLAeHAINfHOaTAeIbKAF",
    "cHAdLAMDAfMEMdNUNdPUcQOPAeRASHAfSADEcMKAeHINdSUdTETcHANNAfOcUbWOcYOD",
    "dZETAdUjWORD DIVIDERuMBRELLAa ON GROUNDjWITH RAIN DROPSxNAMUSED FACE",
    "lCERTAINTY SIGNoDERTIEfO SYMBOLjICORN FACEjON",
    "a ABOVE BAR ABOVE INTERSECTIONwINTERSECTIONsBESIDE AND JOINED WITH UNION",
    "zdWITH LOGICAL ORkMINUS SIGNkOVERBARpT SEPARATORkED SYMBOL",
    "kVERSAL RECYCLING SYMBOLyMARRIED PARTNERSHIP SYMBOLz",
    "cP ARROW THROUGH CIRCLEpHEADa BETWEEN TWO HORIZONTAL BARSz",
    "cIN A RECTANGLE BOXzdBARB LEFT DOWN BARB LEFT HARPOONmRIGHT HARPOONz",
    "dRIGHT DOWN BARB LEFT HARPOONmRIGHT HARPOONzjDOWN ARROWa WITH BASE",
    "pBLACK ARROWlDOUBLE ARROWmSANS-SERIF ARROWqTRIANGLE-HEADED ARROW",
    "vWHITE ARROWqFISH TAILjRIGHT DIAGONAL ELLIPSISxTACKa WITH CIRCLE ABOVE",
    "x-POINTING AIRPLANEiMILITARY AIRPLANErRED TRIANGLEmSMALL AIRPLANE",
    "iRED TRIANGLEsTRIANGLE WITH LEFT HALF BLACKpRIGHT HALF BLACKz",
    "pPER AND LEFT AND LOWER TRIANGULAR THREE QUARTERS BLOCKz",
    "uOWER ONE EIGHTH BLOCKqTRIANGULAR HALF BLOCKz",
    "cRIGHT AND LOWER TRIANGULAR THREE QUARTERS BLOCKzzbBLADE SCISSORS",
    "oFIVE EIGHTHS BLOCKsHALF BLOCKa AND LOWER HALF INVERSE MEDIUM SHADEz",
    "qCIRCLEgINVERSE MEDIUM SHADE AND LOWER HALF BLOCKziWHITE CIRCLE",
    "uMEDIUM SHADErLEFT BLOCK DIAGONAL LOWER CENTRE TO LOWER MIDDLE RIGHT",
    "sUPPER MIDDLE RIGHTmRIGHTvLEFT TO LOWER MIDDLE RIGHTsUPPER CENTRE",
    "gMIDDLE RIGHTzbMIDDLE LEFT TO UPPER CENTREgMIDDLE RIGHTmRIGHTz",
    "hUPPER MIDDLE LEFT TO UPPER CENTREgRIGHTzwCORNER WITH DOT",
    "pOR LOWER RIGHT CURLY BRACKET SECTIONzlQUADRANT CIRCULAR ARC",
    "vTO LOWER RIGHT FILLsRIANGLEcULAR MEDIUM SHADEzdONE EIGHTH BLOCK",
    "mQUARTER BLOCKrRIGHT BLOCK DIAGONAL LOWER MIDDLE LEFT TO LOWER CENTRE",
    "gRIGHTzhUPPER CENTRE TO LOWER MIDDLE RIGHTmRIGHTlUPPER MIDDLE RIGHTz",
    "dLEFT TO LOWER CENTREgMIDDLE RIGHTsUPPER MIDDLE RIGHTz",
    "bMIDDLE LEFT TO LOWER CENTREgMIDDLE RIGHTmRIGHTz",
    "wDROP-SHADOWED WHITE SQUAREzbOR LOWER LEFT CURLY BRACKET SECTIONzkPENCIL",
    "gQUADRANT CIRCULAR ARCvSHADOWED WHITE CIRCLEgSQUAREvTO LOWER LEFT FILL",
    "rRIANGLEcULAR MEDIUM SHADEzeSEVEN EIGHTHS BLOCKtTHREE EIGHTHS BLOCK",
    "nQUARTERS BLOCKtRIANGULAR ONE QUARTER BLOCKzhSIDE-DOWN FACEoWARDS ANCORA",
    "fRROWa AND RIGHT ONE EIGHTH BLOCKzbFROM BARiLEFTWARDS OF DOWNWARDS ARROW",
    "zdTO BARgWITH DOUBLE STROKEnEQUILATERAL ARROWHEADvHORIZONTAL STROKE",
    "rLARGE TRIANGLE ARROWHEADyMEDIUM TRIANGLE ARROWHEADzaNOTCHED TAIL",
    "mSMALL EQUILATERAL ARROWHEADvTRIANGLE ARROWHEADyTIP LEFTWARDSjRIGHTWARDS",
    "zaBLACK ARROWfCIRCLED WHITE ARROWzaCOMPRESSED ARROWqDASHED ARROW",
    "lOUBLE ARROWmFINGER-POST ARROW",
    "rHARPOON WITH BARB LEFT BESIDE DOWNWARDS HARPOON WITH BARB RIGHTz",
    "iUPWARDS HARPOON WITH BARB RIGHTznFROM BARiTO BARhWARDSjRIGHT FROM BAR",
    "iTO BARhWARDSzcEAVY ARROWfCOMPRESSED ARROWwPAIRED ARROWSnQUADRUPLE ARROW",
    "pROCKETgSANS-SERIF ARROWpQUARED ARROWnTRIANGLE ARROWHEADk-HEADED ARROW",
    "a LEFTWARDS OF DOWNWARDS TRIANGLE-HEADED ARROWztTO BARgWITH BOLD SHAFT",
    "kDOUBLE HORIZONTAL STROKEyHEAVY SHAFTlLONG TIP LEFTWARDSjRIGHTWARDS",
    "tMEDIUM SHAFTmNARROW SHAFTmVERY HEAVY SHAFTzcDASHED ARROWmPAIRED ARROWSz",
    "bPLE ARROWlWO HEADED ARROWn-HEADED ARROW FROM SMALL CIRCLE",
    "rWITH TRIANGLE ARROWHEADSzqWHITE ARROWa FROM BARa WITH HORIZONTAL BARz",
    "dON PEDESTALa WITH HORIZONTAL BARoVERTICAL BARz",
    "eWITHIN TRIANGLE ARROWHEADzgDOUBLE ARROWa ON PEDESTALzmRANUSfScVAI COMMA",
    "fDIGIT EIGHTfFIVEdOUReNINEeONEdSEVENeIXdTHREEeWOdZEROkFULL STOP",
    "jQUESTION MARKnSYLLABLE AaNcBAbEaEcHAbEaEcIbOaOcUcIbOaOcUcCAbEaEcIbOaOcU",
    "cDAbEaEcHAbEaEcHAbEaEcIbOaOcUcIbOaOcUcIbOaOcUcEaEaNcNcFAbEaEcIbOaOcUcGA",
    "bBAbEaEbNcIbOaNbOcUcEaEbNcIbOaOcUcHAaNcEaEbNcIaNcOaNbOcUaNdIaNcJAbEaEcI",
    "bOaOcUcKAaNcEaEcIbOaOcPAaNcEaEbNcIbOaOcUcUcLAbEaEbNGTHENERjIbOaOcUcMAbBA",
    "bEaEcIbOaOcUcEaEcGBAbEaEcIbOaOcUdIbOaOcUcNAbDAbEaEcIbOaLE DOcFAcKAcMA",
    "cSOOgOcUcEaEcGaANcENcGAbEaEbNcIbOaOcUcONdIbJAbEaEcIbOaOcUcOaOcUbYAbEaEcI",
    "bOaOcUdOaNbOaNdPAbEaEcIbOaOcUcRAbEaEcIbOaOcUcSAbEaEcHAbEaEcIbOaOcUcIbOaO",
    "cUcTAbEaEcHAbEaEcIbOaOcUcIbOaOcUcUaNcVAbEaEcIbOaOcUcWAaNcEaEaNcNcIaNcOaN",
    "bOaNdUaNdYAbEaEcIbOaOcUcZAbEaEcHAbEaEcIbOaOcUcIbOaOcUjMBOL BANGeDANGdO-O",
    "cONGfFAAcEENGfJONGeKEENGeUNGeNIIdTAAcINGdONGnMPIREfRIATION SELECTOR-1a0",
    "a0b1b2b3b4b5b6b7b8b9c1a0b1b2b3b4b5b6b7b8b9c2a0b1b2b3b4b5b6b7b8b9c3a0b1b2",
    "b3b4b5b6b7b8b9c4a0b1b2b3b4b5b6b7b8b9c5a0b1b2b3b4b5b6b7b8b9c6a0b1b2b3b4b5",
    "b6b7b8b9c7a0b1b2b3b4b5b6b7b8b9c8a0b1b2b3b4b5b6b7b8b9c9a0b1b2b3b4b5b6b7b8",
    "b9d2a0a0b1b2b3b4b5b6b7b8b9c1a0b1b2b3b4b5b6b7b8b9c2a0b1b2b3b4b5b6b7b8b9c3",
    "a0b1b2b3b4b5b6b7b8b9c4a0b1b2b3b4b5b6b7b8b9c5a0b1b2b3b4b5b6c6b7b8b9c3a0b1",
    "b2b3b4b5b6b7b8b9c4a0b1b2b3b4b5b6b7b8b9c5a0b1b2b3b4b5b6b7b8b9c6a0b1b2b3b4",
    "b5b6b7b8b9c7a0b1b2b3b4b5b6b7b8b9c8a0b1b2b3b4b5b6b7b8b9c9a0b1b2b3b4b5b6b7",
    "b8b9uECTOR OR CROSS PRODUCTvDIC SIGN ANUSVARA ANTARGOMUKHAmBAHIRGOMUKHA",
    "mUBHAYATO MUKHAoVAMAGOMUKHAa WITH TAILzeRDHAVISARGAlTIKRAMA",
    "iDOUBLE ANUSVARA ANTARGOMUKHAzdHEXIFORM LONG ANUSVARAwJIHVAMULIYA",
    "lLONG ANUSVARAnNIHSHVASAjREVERSED VISARGA ANUDATTAiUDATTA",
    "wOTATED ARDHAVISARGAtTHANG LONG ANUSVARAuTIRYAKgUPADHMANIYA",
    "lVISARGA ANUDATTAa WITH TAILsSVARITAhUDATTAa WITH TAIL",
    "yYAJURVEDIC MIDLINE SVARITAzgTONE ATHARVAVEDIC INDEPENDENT SVARITAz",
    "hCANDRA ABOVEfBELOWmDOT BELOWhUBLE RING ABOVEkSVARITAoKARSHANA",
    "gTHAKA ANUDATTAqPRENKHAhRIGVEDIC KASHMIRI INDEPENDENT SVARITAzkNG ABOVE",
    "kSHARAfTHREE DOTS BELOWpRIPLE SVARITAnWO DOTS BELOW",
    "oYAJURVEDIC AGGRAVATED INDEPENDENT SVARITAzfINDEPENDENT SVARITA",
    "tKATHAKA INDEPENDENT SVARITAa SCHROEDERzzhRSICLE",
    "fTICAL BAR BESIDE RIGHT TRIANGLEvDOUBLE LEFT TURNSTILE",
    "vTRIPLE RIGHT TURNSTILEwWITH HORIZONTAL STROKEzbELLIPSISiFOUR DOTS",
    "jIDEOGRAPHIC ITERATION MARKzbKANA REPEAT MARKa LOWER HALFkUPPER HALF",
    "pWITH VOICED SOUND MARKa UPPER HALFzuLINEa EXTENSIONjWITH CIRCLE ABOVE",
    "fBELOWmMIDDLE DOTuMALE WITH STROKE SIGNvONE EIGHTH BLOCK-2b3b4b5b6b7",
    "sSIX DOTSiTAB KEYeULATIONa SETnILDEeRAFFIC LIGHTnZIGZAG LINE",
    "rY BOLD GREEK CROSSqHEAVY EIGHT POINTED BLACK STARsSPOKED ASTERISK",
    "vFIVE SPOKED ASTERISKuGREEK CROSSlREVERSE SOLIDUSpSALTIRE",
    "gIX SPOKED ASTERISKsOLIDUShWHITE CIRCLEgSQUAREsMUCH GREATER-THAN",
    "mLESS-THANrSTAeIBRATION MODEmCTORY HANDkDEO CAMERAgGAMEfCASSETTE",
    "lETNAMESE ALTERNATE READING MARK CAcNHAYzkWDATA SQUAREnOLINeRGO",
    "dTHKUQI CAPITAL LETTER AbBBEcEcCEbHEdDEbHEdEaIcFEcGAcHAbHAdIaJEdJEcKAcLA",
    "bLAdMEcNEbJEdObPEcQAcREcSEbHEdTEbHEdUbVEcXEcYbZErSMALL LETTER AbBBEcEcCE",
    "bHEdDEbHEdEaIcFEcGAcHAbHAdIaJEdJEcKAcLAbLAdMEcNEbJEdObPEcQAcREcSEbHEdTE",
    "bHEdUbVEcXEcYbZExOIDED GREEK CROSSqLCANOeLEYBALLhUME INTEGRALoS1a0a0b1b2",
    "b3b4b5b6b7b8b9c1a0b1b2b3b4b5b6b7b8b9c2a0b1b2b3b4b5b6b7b8b9c3a0b1b2b3b4b5",
    "b6b7b8b9c4a0b1b2b3b4b5b6b7b8b9c5a0b1b2b3b4b5b6b7b8b9c6a0b1b2b3b4b5b6b7b8",
    "b9c7a0b1b2b3b4b5b6b7b8b9c8a0b1b2b3b4b5b6b7b8b9c9a0b1b2b3b4b5b6b7b8b9d2a0",
    "a0b1b2b3b4b5b6b7b8b9c1a0b1b2b3b4b5b6b7b8b9c2a0b1b2b3b4b5b6b7b8b9c3a0b1b2",
    "b3b4b5b6b7b8b9c4a0b1b2b3b4b5b6b7b8b9c5a0b1b2b3b4b5b6c6b7b8b9c3a0b1b2b3b4",
    "b5b6b7b8b9c4a0b1b2b3b4b5b6b7b8b9c5a0b1b2b3b4b5b6b7b8b9c6a0b1b2b3b4b5b6b7",
    "b8b9c7a0b1b2b3b4b5b6b7b8b9c8a0b1b2b3b4b5b6b7b8b9c9a0b1b2b3b4b5b6b7b8b9dT",
    "aScULCANUSfGAR FRACTION FIVE EIGHTHShSIXTHSkOUR FIFTHSlONE EIGHTHgFIFTH",
    "fHALFeNINTHfQUARTERhSEVENTHgIXTHfTENTHeHIRDjSEVEN EIGHTHSnTHREE EIGHTHS",
    "hFIFTHSgQUARTERSnWO FIFTHSgTHIRDSkZERO THIRDSzcWAFFLEeNCHO DIGIT EIGHT",
    "fFIVEdOUReNINEeONEdSEVENeIXdTHREEeWOdZEROkLETTER AaAaNaGdNGcUcBAcCAcDAcE",
    "aNcFAcGAcHAcIaNGdJAcKAbHAdLAbLHAeMAcNAbGAcYAdOaNaGdPAbHAdRAcSAbHAdTAbHA",
    "cRAcSAdUaENdVAcWAcYAbIHdZAjNGUN SIGNjTONE KOIaNIfTUPaNI",
    "oING CRESCENT MOON SYMBOLuGIBBOUS MOON SYMBOLyRANG CITI CAPITAL LETTER A",
    "aMbNGcTcBUcDAcEaNNbYdGAcHARcIYOdOLOcRReIIcKOcNGAAdUNGeOaDDdPUcSIIcSUU",
    "eTTEdUCbUcVIYOeWIcYAbObUaJsDIGIT EIGHTfFIVEdOUReNINEeONEdSEVENeIXdTHREE",
    "eWOdZEROkNUMBER EIGHTYgFIFTYeORTYfNINETYgSEVENTYgIXTYfTENcHIRTYfWENTYnOM",
    "cSMALL LETTER AaMbNGcTcBUcDAcEaNNbYdGAcHARcIYOdOLOcRReIIcKOcNGAAdUNGeO",
    "aDDdPUcSIIcSUUeTTEdUCbUcVIYOeWIcYAbObUaJzaNING SIGNkSTEBASKETjTCH",
    "cER BUFFALOhCLOSETgPOLOeWAVEfMELONiVE ARROW POINTING DIRECTLY LEFTeRIGHT",
    "zeDASHgING BLACK FLAGkHAND SIGNjWHITE FLAGoY DASHeLINEdOW LINEiOVERLINE",
    "lXING CRESCENT MOON SYMBOLuGIBBOUS MOON SYMBOLzaEARY CAT FACEiFACEiDDING",
    "eGE-TAILED RIGHTWARDS ARROWzcIERSTRASS ELLIPTIC FUNCTIONzbGHT LIFTER",
    "lST SYRIAC CROSSqHALEdEELa OF DHARMAkCHAIR SYMBOL",
    "pITE ARROW SHAFT WIDTH ONEdTWO THIRDSzdBULLETgCHESS BISHOP",
    "a ROTATED NINETY DEGREESoTWO HUNDRED SEVENTY DEGREESzrEQUIHOPPER",
    "a ROTATED NINETY DEGREESziKINGa ROTATED NINETY DEGREES",
    "oTWO HUNDRED SEVENTY DEGREESzoNIGHTa ROTATED FORTY-FIVE DEGREES",
    "sNINETY DEGREESoONE HUNDRED THIRTY-FIVE DEGREESz",
    "gTHREE HUNDRED FIFTEEN DEGREESzdWO HUNDRED SEVENTY DEGREES",
    "pTWENTY-FIVE DEGREESzp-BISHOPgQUEENfROOKlPAWNa ROTATED NINETY DEGREES",
    "oTWO HUNDRED SEVENTY DEGREESzpQUEENa ROTATED NINETY DEGREES",
    "oTWO HUNDRED SEVENTY DEGREESzqROOKa ROTATED NINETY DEGREES",
    "oTWO HUNDRED SEVENTY DEGREESzpTURNED BISHOPgKINGdNIGHTgPAWNeQUEENfROOK",
    "qIRCLEa CONTAINING BLACK SMALL CIRCLEzeWITH DOT RIGHThWN ARROW",
    "kLOWER LEFT QUADRANTnRIGHT QUADRANTuTWO DOTSiUPPER LEFT QUADRANT",
    "nRIGHT QUADRANTzgLUB SUITiONCAVE-SIDED DIAMONDa WITH LEFTWARDS TICK",
    "oRIGHTWARDS TICKzrDIAMONDa CONTAINING BLACK MEDIUM DIAMONDoSMALL DIAMOND",
    "nVERY SMALL DIAMONDzkIN SQUAREjSUITeWITH CENTRED DOT",
    "xOWN POINTING BACKHAND INDEXoINDEXfLEFT HAND INDEXz",
    "a-POINTING SMALL TRIANGLEoTRIANGLEvRAUGHTS KINGeMAN",
    "mEXCLAMATION MARK ORNAMENTzaFLAGa WITH HORIZONTAL MIDDLE BLACK STRIPEz",
    "nORETTEfWERfOUR POINTED CUSPeSTARqROWNING FACEnHARD SHELL FLOPPY DISK",
    "vEARTa SUIThVY CHECK MARKkSALTIRE WITH ROUNDED CORNERSzhXAGON",
    "gORIZONTAL ELLIPSEqURGLASSjLARGE SQUAREkTIN CROSSkEFT LANE MERGE",
    "kPOINTING BACKHAND INDEXoINDEXp-POINTING POINTERhSMALL TRIANGLEoTRIANGLE",
    "vOZENGE CONTAINING BLACK SMALL LOZENGEznMEDIUM DIAMONDhLOZENGE",
    "hSMALL SQUARElQUAREfTARkOON SELENAlNIBdPARALLELOGRAMmENNANTeTAGON",
    "iQUESTION MARK ORNAMENTwRECTANGLEiIGHT POINTING BACKHAND INDEXoINDEX",
    "p-POINTING PENTAGONhOINTERhSMALL TRIANGLEoTRIANGLExSCISSORShESAME DOT",
    "jHOGI PIECEkMALL LOZENGEhSQUAREfTARiILING FACElPADE SUITjQUAREa BUTTON",
    "gCONTAINING BLACK MEDIUM SQUAREnSMALL SQUAREmVERY SMALL SQUAREz",
    "jWITH CENTRE VERTICAL LINEuLEFTWARDS TICKnOWER LEFT QUADRANT",
    "nRIGHT QUADRANTuRIGHTWARDS TICKoOUNDED CORNERSpUPPER LEFT QUADRANT",
    "nRIGHT QUADRANTuVERTICAL BISECTING LINEzjTARdUNa BEHIND CLOUDa WITH RAIN",
    "wWITH RAYSeSMALL CLOUDuTELEPHONEiOUCHTONE TELEPHONEsRAPEZIUM",
    "hIANGLE CONTAINING SMALL WHITE TRIANGLEzoWO-WAY LEFT WAY TRAFFIC",
    "yUP POINTING BACKHAND INDEXoINDEXp-POINTING CHEVRONhSMALL TRIANGLE",
    "oTRIANGLEa WITH DOTzeVERTICAL BARdELLIPSEhRECTANGLEpY SMALL SQUARE",
    "s-FEATHERED RIGHTWARDS ARROWzgIDE-HEADED DOWNWARDS BARB ARROW",
    "kHEAVY BARB ARROWqLIGHT BARB ARROWqMEDIUM BARB ARROW",
    "rVERY HEAVY BARB ARROWzgLEFTWARDS BARB ARROWkHEAVY BARB ARROW",
    "qLIGHT BARB ARROWqMEDIUM BARB ARROWrVERY HEAVY BARB ARROWz",
    "gNORTH EAST BARB ARROWkHEAVY BARB ARROWqLIGHT BARB ARROW",
    "qMEDIUM BARB ARROWrVERY HEAVY BARB ARROWzbWEST BARB ARROW",
    "kHEAVY BARB ARROWqLIGHT BARB ARROWqMEDIUM BARB ARROW",
    "rVERY HEAVY BARB ARROWzhRIGHTWARDS BARB ARROWkHEAVY BARB ARROW",
    "qLIGHT BARB ARROWqMEDIUM BARB ARROWrVERY HEAVY BARB ARROWz",
    "hSOUTH EAST BARB ARROWkHEAVY BARB ARROWqLIGHT BARB ARROW",
    "qMEDIUM BARB ARROWrVERY HEAVY BARB ARROWzbWEST BARB ARROW",
    "kHEAVY BARB ARROWqLIGHT BARB ARROWqMEDIUM BARB ARROW",
    "rVERY HEAVY BARB ARROWzhUPWARDS BARB ARROWkHEAVY BARB ARROW",
    "qLIGHT BARB ARROWqMEDIUM BARB ARROWrVERY HEAVY BARB ARROWz",
    "oGGLY VERTICAL LINEsLTED FLOWERlND BLOWING FACEmCHIMEgOWdE GLASS",
    "hKING FACEkRED KEYBOARDnJbOLF FACEhMANa WITH BUNNY EARSqS BOOTSfCLOTHES",
    "hHATdSANDALkENS SYMBOLlN SIGNgODcRD JOINERgSEPARATOR MIDDLE DOTwLD MAPgM",
    "bRIED FACElRAPPED PRESENTnEATH PRODUCTlNCHdSTLERShITING HAND",
    "mX IN A RECTANGLE BOXt-RAYeIANGQI BLACK CANNONfHARIOThELEPHANTiGENERAL",
    "hHORSEfMANDARINiSOLDIERnRED CANNONfHARIOThELEPHANTiGENERALhHORSE",
    "fMANDARINiSOLDIERsORdYAWNING FACElELLOW HEARTkN SIGN",
    "gZIDI COMBINING HAMZA MARKkMADDA MARKuHYPHENATION MARKqLETTER BEcCHHIM",
    "dIMdIMdDADbLdELIFdTbWbYNdFAcGAFdHAYcHAdJAcKAFcHAFeLAMa WITH DOT ABOVE",
    "sMIMdNUNdOWcPEbHEdQAFdRAbHAdSADcEbHINdINdTAbHEdUMcVAa ALTERNATE FORMrWAW",
    "dXAbHEYNfYOTa WITH CIRCUMFLEX ABOVEzaZAaLcEpI RADICAL BBUTdURdCHEcIPcUOP",
    "dYaPbTdDDURdUcGAbEPcGOPcUOdOTdHMOcXITcOPcUOeJJIEcUTcYcOcKEbITdLIaEcYRdMI",
    "bOPdNBIEdYIPcOPdZUPeOPcPUTcYTdQOTdSHATcOPcURcYcSIdTATcUcVEPcURdWOcYITcO",
    "cZAbOTcUPbRcZIETnSYLLABLE AaPbTbXcBAaPbTbXcBAaPbTbXcEaPbXcIaEaPbTbXcPbT",
    "bXcOaPbTbXcUaOaPbXcPbRaXcTbXcYaPbTbXdEaPbXcIaEaPbTbXcPbTbXcOaPbTbXcUaOaP",
    "bXcPbRaXcTbXcYaPbRaXcTbXdCAaPbTbXcEaPbXcHAaPbTbXcEaPbTbXcOaPbTbXcUaOaPbT",
    "bXcPbRaXcXcYaPbRaXcTbXdIaEaPbTbXcPbTbXcOaPbTbXcUaOaPbXcPbRaXcTbXcYaPbRaX",
    "cTbXdDAaPbTbXcDAaPbTbXcEaPbXcIaEaPbXcPbTbXcOaPbTbXcUaOaPbXcPbRaXcTbXdEaP",
    "bXcIaEaPbXcPbTbXcOaPbTbXcUaOaXcPbRaXcTbXdEaXcFAaPbTbXcIaPbTbXcOaPbXcUaP",
    "bRaXcTbXcYaPbTbXdGAaPbTbXcEaPbTbXcGAaPbTbXcEaPbTbXcIaEaPbXcTbXcOaPbTbXcU",
    "aOaPbTbXcPbRaXcTbXdIaEaPbTbXcPbTbXcOaPbTbXcUaOaPbTbXcPbRaXcTbXdHAaPbTbX",
    "cEaPbXcIEaXcTcLAaPbTbXcEaPbXcIaEaPbXcPbTbXcOaPbXcUaOaPbXcPbRaXcTbXcYaPbR",
    "aXcTbXdMAaPbTbXcIaEaPbXcPbTbXcOaPbTbXcUaOaPbXcPbRaXcTbXcYaPbRaXcXdNAaPbT",
    "bXcEaPbXcIaEaPbTbXcPbTbXcOPbTbXcUOaXcTdOaPbTbXcUOaPbTbXdXAaPbTbXcEaPbXcI",
    "aEaPbTbXcPbTbXcOaPbTbXcUOaPbTbXfIaEaPbTbXcPbTaERATION MARKnXcJIaEaPbTbX",
    "cPbTbXcJIaEaPbTbXcPbTbXcOaPbTbXcUaOaPbXcPbRaXcTbXcYaPbTbXdOaPbTbXcUaOaP",
    "bTbXcPbRaXcTbXcYaPbRaXcTbXdKAaPbTbXcEaPbTbXcIaEaPbXcPbTbXcOaPbTbXcUaOaP",
    "bXcPbRaXcTbXdLAaPbTbXcEaPbXcIaEaPbTbXcPbTbXcOaPbTbXcUaOaPbTbXcPbRaXcTbX",
    "cYaPbRaXcTbXdMAaPbTbXcEaXcGAaPbTbXcEaPbXcIEaXdOaPbTbXcUaOaPbXcPbRaXcTbX",
    "dIaEaPbXcPbTbXcOaPbTbXcUaOaPbTbXcPbRaXcTbXcYaPbTbXdNAaPbXcBAaPbTbXcIaEaP",
    "bXcPbTbXcOaPbTbXcUaPbRaXcTbXcYaPbRaXcTbXdDAaPbTbXcEaPbXcIaEaXcPbTbXcOaP",
    "bTbXcUaPbRaXcTbXdEaPbXcGAaPbTbXcEaPbXcIEaPbXdOaPbTbXcUOaTbXeIaEaPbXcPbT",
    "bXcJIaEaPbTbXcPbTbXcOaPbTbXcUaOaXcPbRaXcXcYaPbRaXcTbXdOaPbTbXcRAaPbTbXcE",
    "aPbTbXcOaPbXcUaPbRaXcTbXcYaPbRaXcTbXdUaOaPbXcPbRaXcTbXcYIaEaPbTbXcPbTbX",
    "cOaPbTbXcUaOaPbXcPbTbXdZAaPbTbXcEaXcIaEaPbXcPbTbXcOPbXcUaOaXcPbRaXcXcYaP",
    "bRaXcTbXeOaPbTbXcPAaPbTbXcIaEaPbXcPbTbXcOaPbTbXcUaOaPbXcPbRaXcTbXcYaPbR",
    "aXcTbXdQIaEaPbTbXcPbTbXcOaPbTbXcUaOaPbTbXcPbRaXcTbXcYaPbRaXcTbXdRAaPbTbX",
    "cEaPbXcOaPbTbXcRAaXcEaPbTbXcOaPbTbXcUaOaXcPbRaXcTbXcYaPbRaXcTbXdUaOaPbX",
    "cPbRaXcTbXcYaPbRaXcTbXdSAaPbTbXcEaPbXcHAaPbTbXcEaPbTbXcOaPbTbXcUaOaPbXcP",
    "bRaXcTbXcYaPbRaXcTbXdIaEaPbXcPbTbXcOaPbTbXcSAaPbTbXcEaPbXcIaEaPbXcPbTbX",
    "cOaPbTbXcUaPbTbXcYaPbRaXcTbXdUaOaPbXcPbRaXcTbXcYaPbRaXcTbXdTAaPbTbXcEaP",
    "bXcIaEaPbXcPbTbXcOaPbTbXcUaOaPbTbXcPbRaXcTbXdUOaPbXdVAaPbTbXcEPbXcIaEaP",
    "bTbXcPbTbXcOaPbTbXcUaPbRaXcTbXcYaPbRaXcTbXdWAaPbTbXcEaPbXcOaPbXcUaOaPbX",
    "eXIaEaPbTbXcPbTbXcOaPbTbXcUOaXdYaPbRaXcTbXdYIaEaPbTbXcPbTbXcOaPbTbXcUaO",
    "aPbTbXcPbRaXcTbXcYaPbRaXcTbXdZAaPbTbXcEaPbXcHAaPbTbXcEaPbTbXcOaPbTbXcUaO",
    "aPbXcPbRaXcTbXcYaPbRaXcTbXdIaEaPbXcPbTbXcOaPbTbXcUaOaPbXcPbRaXcTbXcYaPbR",
    "aXcTbXcZAaPbTbXcEaPbXcIaEaPbTbXcPbTbXcOaPbXcUaPbRaXcXcYaPbRaXcTbXoN YANG",
    "hO-YOfZ NOTATION BAG MEMBERSHIPoDOMAIN ANTIRESTRICTION",
    "wLEFT BINDING BRACKETpIMAGE BRACKETsRANGE ANTIRESTRICTION",
    "uELATIONAL COMPOSITIONvIGHT BINDING BRACKETpIMAGE BRACKET",
    "tSCHEMA COMPOSITIONlPIPINGfROJECTIONqPOTeTYPE COLON",
    "uANABAZAR SQUARE CLOSING DOUBLE-LINED HEAD MARKwHEAD MARK",
    "pUSTER-FINAL LETTER LAcRAcVAcYApINITIAL LETTER RAzaFINAL CONSONANT MARK",
    "uINITIAL DOUBLE-LINED HEAD MARKwHEAD MARKrLETTER -AcAbBAbHAdCAbHAdDAbDA",
    "bHAdHAcZAbHAeGAbHAdHAcJAcKAbHAcSSAeLAcMAcNAbGAcNAcYAdPAbHAdRAcSAbHAcSA",
    "dTAbHAcSAbHAdTAbHAeVAcYAcZAbHAkMARK DOUBLE SHADlLONG TSHEGkSHADeTSHEG",
    "kSIGN ANUSVARAiCANDRA WITH ORNAMENToBINDUa WITH ORNAMENTzaVIRAMAeSARGA",
    "lUBJOINERjVOWEL LENGTH MARKlSIGN AIbUcEbIbOaEcREVERSED IkUaEzeEBRA FACE",
    "iRO WIDTH JOINERgNO-BREAK SPACEmN-JOINERkSPACEoUSdIPPER-MOUTH FACE",
    "qNAMENNY COMBINING ATTACHING VERTICAL OMETxLOWER TONAL RANGE INDICATORz",
    "cMARK BORZAYAhCHASHKAa POLNAYAoURVED OMETlDEMESTVENNY ZADERZHKA",
    "uVOETOCHIEkGORAZDO NIZKO ON LEFTeRIGHTiS KRYZHEM ON LEFTeRIGHTyVYSOKO",
    "oKACHKAfRYZHa ON LEFTmUPNAYAhLOMKAfMALO POVYSHE ON LEFTeRIGHT",
    "iS KHOKHLOM ON LEFTeRIGHTqRYZHEMiTRANNOuNIZKO ON LEFTeRIGHT",
    "iS KRYZHEM ON LEFTeRIGHTyOBLACHKOhNbTSECHKAiPODCHASHIE",
    "a WITH VERTICAL STROKEzdVERTKAhVYSHE ON LEFTeRIGHTiS KHOKHLOM ON LEFT",
    "eRIGHTqRYZHEMiTRANNOpRAVNOdZSEKAhSKOBAeOROCHYA NOZHKAoREDNE ON LEFT",
    "eRIGHToTRANNO MALO POVYSHEuTIKHAYAgOCHKAfSATA ON LEFTeRIGHTiS KRYZHEM",
    "pUDARKAgVYSOKO ON LEFTeRIGHTiS KHOKHLOM ON LEFTeRIGHTqRYZHEMqZADERZHKA",
    "iELOcVOKkTONAL RANGE MARK MRACHNOhSVETLOgTRESVETLOzlNEUME CHASHKA",
    "fELYUSTKAkDEMESTVENNY KLYUCHqRBITSAhOUBLE ZAPYATAYApUDAdVA V CHELNUmFITA",
    "eGOLUBCHIK BORZYfMRACHNYhSVETLYgTIKHYeRESVETLYtKHAMILOgLYUCHfOBYLAfRYUK",
    "a TIKHYiZHeUFISMAhMECHIKa KLYUCHENEPOSTOYANNYmPOVODNYhVOYkPOVODNYoNEMKA",
    "fOBLAKOfSOKAa KLYUCHEVAYA NEPOSTOYANNAYAoSVETLAYAtRYUKOVAYA SVETLAYA",
    "tSVETLAYAiTRESVETLAYArPALKAdRAKLITgUKdEREVODKAa NEPOSTOYANNAYAxODCHASHIE",
    "iLKULIZMYkREVERSED CHELYUSTKAsOGdSKAMEYTSA DVOECHELNAYA KLYUCHEVAYA",
    "lNEPOSTOYANNAYAoPROSTAYAiSVETLAYAvKLYUCHENEPOSTOYANNAYAoVAYA SVETLAYA",
    "iTIKHAYAtMRACHNAYAjSVETLAYAiTIKHAYAgRESVETLAYAuLOZHITIEa S KRYZHEM",
    "hZAPYATOYkZAKRYTOErTATYAa NEPOSTOYANNAYAoS DVUMYA ZAPYATYMIqKRYZHEM",
    "a I ZAPYATOYsROGOMfZAPYATOYa I KRYZHEMhPODCHASHIEMyZAKRYTAYAa S ZAPYATOY",
    "zaOPITSAa S OCHKOMiWITH SOROCHYA NOZHKAzcRELA DVOECHELNAYAa KLYUCHEVAYA",
    "pOKRYZHEVAYAkPOVODNAYAa KLYUCHEVAYAzgGROMNAYAa WITH SINGLE ZAPYATAYAz",
    "bOKRYZHEVAYAa POVODNAYAuPOVODNAYAa WITH DOUBLE ZAPYATAYA",
    "qSINGLE ZAPYATAYAzlKLYUCHENEPOSTOYANNAYAoPOVODNAYApRYUKOVAYAa GROMNAYA",
    "a WITH SINGLE ZAPYATAYAzbOKRYZHEVAYAa POVODNAYAuPOVODNAYA",
    "a WITH DOUBLE ZAPYATAYAqSINGLE ZAPYATAYAzlPOVODNAYAjTRYASKApZHEVAYA",
    "kMRACHNOTIKHAYAoNEPOSTOYANNAYAoPOLUPOVODNAYAlVODNAYAiROSTAYA",
    "iTIKHAYA PUTNAYAoRYASOGLASNAYAiPOVODNAYAjSTRELNAYA",
    "wVRAKHIYA KLYUCHEVAYA MRACHNAYAjPROSTAYAiSVETLAYAiTRESVETLAYAxMRACHNAYA",
    "jPROSTAYAiSVETLAYAiTRESVETLAYAuZANOZHEKgPYATAYAiMEYTSA",
    "nPRIZNAK MODIFIER DIRECTION FLIPoKRYZHfLEVEL-2b3hROGzdOMBIEfWJbNBSPdJcSP"]

end Chip8.Text.CharacterName
